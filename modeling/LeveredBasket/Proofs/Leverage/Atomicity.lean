/-
Operations that undo themselves.

`World.operate` works on a session and throws it away where the operation is
refused. A desk that works in place (`LeverageModule::transact`) has nothing to
throw away but its copy of the chain: its records change while the operation is
under way, and so does the list of events that wait for the log. Where the
operation is refused, the desk puts the records back, forgets the events that
wait, and lets the basket go.

A bench is a desk that works like this. Its requests come to what those of
`World` come to (`DeskRequest.run_attempt_idle`), and between two requests nothing
waits and no basket is held, whatever was refused before (`Bench.reachable_iff`).
So a refused operation is undone as a whole, though the pool keeps what it had
booked by then, and nothing of it turns up later (`Bench.Reachable.refusal_undone`).
-/
import LeveredBasket.Proofs.Leverage.Worlds

set_option autoImplicit false

namespace LeveredBasket.Leverage

/-! ## Benches -/

/-- **A desk at work**, and the chain. -/
structure Bench where
  world : World
  /-- The events that wait to be put in the log, the first one first. -/
  pending : List EventPayload
  /-- The baskets on which an operation is under way. -/
  busy : List Address

namespace Bench

/-- Nothing waits, and no operation is under way. -/
def idle (w : World) : Bench := ⟨w, [], []⟩

/-- The bench with this desk. -/
def setDesk (b : Bench) (d : Desk) : Bench := { b with world := { b.world with desk := d } }

/-- An operation on a basket in progress: the desk's own records and events are what it has made of
them by now. The chain is not what it has made of it: the operation has a copy of its own. -/
def working (b : Bench) (basket : Address) (s : Session) : Bench :=
  { b.setDesk { b.world.desk with records := s.records } with
    pending := s.events, busy := basket :: b.busy }

/-- The operation on the basket is over. -/
def release (b : Bench) (basket : Address) : Bench := { b with busy := b.busy.erase basket }

/-- Puts the events that wait in the log. -/
def flush : Action Bench LeverageError Unit := do
  let b ← .read id
  let desk ← .orAbort (b.world.desk.publish? b.pending)
  .modify fun b => { b.setDesk desk with pending := [] }

/-- The chain of an operation that went through takes the place of the bench's, and what it has said
goes to the log. -/
def commit (c : Chain) : Action Bench LeverageError Unit := do
  .modify fun b => { b with world := { b.world with chain := c } }
  flush

/-- Takes a refused operation back: the records are again those from before, and what it has said is
forgotten. -/
def revert (b : Bench) (records : FiniteMap Address Record) : Bench :=
  { b.setDesk { b.world.desk with records := records } with pending := [] }

/-- **Runs an operation in place**, on the desk's own records and waiting events and a copy of the
chain. A basket on which an operation is under way is not entered again. -/
def transact {α : Type} (basket : Address) (op : Desk → Operation α) :
    Action Bench LeverageError α := fun b =>
  if basket ∈ b.busy then .refused (.reentrancy basket) b
  else
    match (op b.world.desk).run ⟨b.world.chain, b.world.desk.records, b.pending⟩ with
    | .done a s =>
      (do
        commit s.chain
        .modify (·.release basket)
        pure a : Action Bench LeverageError α).run (b.working basket s)
    | .refused e s => .refused e (((b.working basket s).revert b.world.desk.records).release basket)
    | .aborted => .aborted

/-- A request that takes no session. -/
def onWorld {α : Type} (x : Action World LeverageError α) : Action Bench LeverageError α :=
  x.within (·.world) fun b w => { b with world := w }

/-- Changes the allow list in place, and says so. -/
def changeAllowList (change : AllowList → Option AllowList) (payload : EventPayload) :
    Action Bench LeverageError Unit := do
  let b ← .read id
  let allowList ← .orAbort (change b.world.desk.allowList)
  .modify fun b =>
    { b.setDesk { b.world.desk with allowList := allowList } with
      pending := b.pending ++ [payload] }
  flush

end Bench

open Bench (transact onWorld) in
/-- An operation on a basket, in place. -/
def BasketOperation.attempt (basket : Address) :
    BasketOperation → Action Bench LeverageError Unit
  | setAllowed caller allowed => do
    let b ← .read id
    .require (caller = b.world.desk.owner) (.notOwner caller)
    .require (b.world.chain.registry.basketEnabled basket = true ∨
      b.world.desk.allowList.isListed basket = true) (.invalidBasket basket)
    Bench.changeAllowList (·.setAllowed? basket allowed) (.allowListUpdated basket allowed)
  | enrol caller params => transact basket (Operation.enrol caller basket params)
  | registerIssuer caller issuer =>
    transact basket (Operation.registerIssuer caller basket issuer)
  | letGo caller => do let _ ← transact basket (Operation.letGo caller basket)
  | enter caller => do let _ ← transact basket (Operation.enter caller basket)
  | lever caller borrowUnits minReceiveUnits adapterName route => do
    let _ ← transact basket
      (Operation.lever caller basket borrowUnits minReceiveUnits adapterName route)
  | delever caller redeemUnits minRepayUnits adapterName route => do
    let _ ← transact basket
      (Operation.delever caller basket redeemUnits minRepayUnits adapterName route)
  | deleverToZero caller redeemUnits adapterName route => do
    let _ ← transact basket
      (Operation.deleverToZero caller basket redeemUnits adapterName route)
  | sync => do
    let _ ← transact basket fun d => do
      let r ← Operation.recordOf d basket
      Operation.syncPositions d basket r
  | moduleHook caller => do let _ ← transact basket (Operation.moduleHook caller basket)
  | issueHook caller quantity component isEquity => do
    let _ ← transact basket (Operation.issueHook caller basket quantity component isEquity)
  | redeemHook caller quantity component isEquity => do
    let _ ← transact basket (Operation.redeemHook caller basket quantity component isEquity)

/-- **A request to a desk, in place.** -/
def DeskRequest.attempt : DeskRequest → Action Bench LeverageError Unit
  | setTime time => do let _ ← Bench.onWorld (World.setTime time)
  | advanceTime delay => do let _ ← Bench.onWorld (World.advanceTime delay)
  | setAnyAllowed caller anyAllowed => do
    let b ← .read id
    .require (caller = b.world.desk.owner) (.notOwner caller)
    Bench.changeAllowList (·.setAnyAllowed? anyAllowed) (.anyBasketAllowedUpdated anyAllowed)
  | basket address operation => operation.attempt address

namespace Bench

/-- The bench after a request, unless that ends the run. -/
def after (b : Bench) : Request → Option Bench
  | .chain request =>
    (request.after b.world.chain).map fun c => { b with world := { b.world with chain := c } }
  | .desk request => request.attempt.after b

/-- The bench after one request after another, unless one of them ends the run. -/
def runs : List Request → Bench → Option Bench
  | [], b => some b
  | r :: rest, b => b.after r >>= runs rest

/-- **The bench can come about**: some requests lead to it from one with nothing on it. -/
def Reachable (b : Bench) : Prop :=
  ∃ pool router feeRecipient holder owner settings requests,
    runs requests (idle (World.blank pool router feeRecipient holder owner settings)) = some b

end Bench

/-! ## In place or on a session -/

/-- `y` comes to on an idle bench what `x` comes to on the world, and leaves the bench idle. -/
def Bench.Agrees {α : Type} (y : Action Bench LeverageError α) (x : Action World LeverageError α) :
    Prop :=
  ∀ w, y.run (.idle w) = (x.run w).mapState .idle

/-- What the events that wait come to in the log, and that none waits any more. -/
theorem Bench.run_flush (b : Bench) : flush.run b =
    match b.world.desk.publish? b.pending with
    | some desk => .done () { b.setDesk desk with pending := [] }
    | none => .aborted := by
  rw [flush, Action.run_bind, Action.run_read]
  dsimp only [id]
  cases b.world.desk.publish? b.pending <;> rfl

namespace Bench.Agrees

variable {α β : Type} {x : Action World LeverageError α} {y : Action Bench LeverageError α}

theorem bind {f : α → Action World LeverageError β} {g : α → Action Bench LeverageError β}
    (h : Agrees y x) (hf : ∀ a, Agrees (g a) (f a)) : Agrees (y >>= g) (x >>= f) := by
  intro w
  rw [Action.run_bind, Action.run_bind, h w]
  cases x.run w with
  | done a w' => exact hf a w'
  | refused e w' => rfl
  | aborted => rfl

theorem forget (h : Agrees y x) : Agrees (do let _ ← y : Action Bench LeverageError Unit)
    (do let _ ← x : Action World LeverageError Unit) :=
  h.bind fun _ _ => rfl

theorem require (p : Prop) [Decidable p] (e : LeverageError) :
    Agrees (.require p e) (.require p e) := by
  intro w
  by_cases hp : p
  · rw [Action.require_pos hp, Action.require_pos hp]
    rfl
  · rw [Action.require_neg hp, Action.require_neg hp]
    rfl

theorem onWorld (x : Action World LeverageError α) : Agrees (Bench.onWorld x) x := by
  intro w
  rw [Bench.onWorld, Action.run_within]
  dsimp only [idle]
  cases x.run w <;> rfl

theorem changeAllowList (change : AllowList → Option AllowList) (payload : EventPayload) :
    Agrees (Bench.changeAllowList change payload) (World.changeAllowList change payload) := by
  intro w
  rw [Bench.changeAllowList, World.changeAllowList, Action.run_bind, Action.run_bind,
    Action.run_read, Action.run_read]
  dsimp only [id, idle]
  cases change w.desk.allowList with
  | none => rfl
  | some allowList =>
    rw [Action.orAbort_some, Action.orAbort_some, pure_bind, pure_bind, Action.run_bind,
      Action.run_modify]
    dsimp only [setDesk, List.nil_append]
    rw [run_flush]
    dsimp only
    cases { w.desk with allowList := allowList }.publish? [payload] <;> rfl

/-- **An operation in place comes to what it comes to on a session.** -/
theorem transact (basket : Address) (op : Desk → Operation α) :
    Agrees (Bench.transact basket op) (World.operate op) := by
  intro w
  change Bench.transact basket op (idle w) = (World.operate op w).mapState idle
  unfold Bench.transact World.operate
  have hfree : basket ∉ (idle w).busy := List.not_mem_nil
  rw [if_neg hfree]
  dsimp only [idle]
  change (match op w.desk ⟨w.chain, w.desk.records, []⟩ with
    | .done a s => _ | .refused e s => _ | .aborted => _) = _
  cases op w.desk ⟨w.chain, w.desk.records, []⟩ with
  | done a s =>
    -- what has been said waits on the bench; on a session it is handed over
    dsimp only
    rw [commit, Action.run_bind, Action.run_bind, Action.run_modify]
    dsimp only
    rw [run_flush]
    dsimp only [working, setDesk]
    cases { w.desk with records := s.records }.publish? s.events with
    | some desk =>
      dsimp only
      rw [Action.run_bind, Action.run_modify]
      simp [release, Outcome.mapState, idle]
    | none => rfl
  | refused e s =>
    -- the records are back, nothing waits, and the basket has been let go
    simp [release, revert, working, setDesk, Outcome.mapState, idle]
  | aborted => rfl

end Bench.Agrees

/-- Every operation on a basket comes to the same in place. -/
theorem BasketOperation.attempt_agrees (basket : Address) (operation : BasketOperation) :
    Bench.Agrees (operation.attempt basket) (operation.perform basket) := by
  cases operation with
  | setAllowed caller allowed =>
    intro w
    exact (Bench.Agrees.require _ _).bind (fun _ => (Bench.Agrees.require _ _).bind
      fun _ => Bench.Agrees.changeAllowList _ _) w
  | enrol caller params => exact Bench.Agrees.transact basket _
  | registerIssuer caller issuer => exact Bench.Agrees.transact basket _
  | letGo caller => exact (Bench.Agrees.transact basket _).forget
  | enter caller => exact (Bench.Agrees.transact basket _).forget
  | lever caller borrowUnits minReceiveUnits adapterName route =>
    exact (Bench.Agrees.transact basket _).forget
  | delever caller redeemUnits minRepayUnits adapterName route =>
    exact (Bench.Agrees.transact basket _).forget
  | deleverToZero caller redeemUnits adapterName route =>
    exact (Bench.Agrees.transact basket _).forget
  | sync => exact (Bench.Agrees.transact basket _).forget
  | moduleHook caller => exact (Bench.Agrees.transact basket _).forget
  | issueHook caller quantity component isEquity =>
    exact (Bench.Agrees.transact basket _).forget
  | redeemHook caller quantity component isEquity =>
    exact (Bench.Agrees.transact basket _).forget

/-- **Every request to a desk comes to the same in place**, from a bench on which nothing waits. -/
theorem DeskRequest.attempt_agrees (r : DeskRequest) : Bench.Agrees r.attempt r.perform := by
  cases r with
  | setTime time => exact (Bench.Agrees.onWorld _).forget
  | advanceTime delay => exact (Bench.Agrees.onWorld _).forget
  | setAnyAllowed caller anyAllowed =>
    intro w
    exact (Bench.Agrees.require _ _).bind (fun _ => Bench.Agrees.changeAllowList _ _) w
  | basket address operation => exact operation.attempt_agrees address

/-! ## Between two requests -/

namespace Bench

/-- A request leaves an idle bench idle, with the world that it leaves. -/
theorem after_idle (r : Request) (w : World) : (idle w).after r = (r.after w).map idle := by
  cases r with
  | chain request =>
    change (request.after w.chain).map _ = ((request.after w.chain).map _).map idle
    rw [Option.map_map]
    rfl
  | desk request =>
    change (request.attempt.run (idle w)).state? = (request.perform.run w).state?.map idle
    rw [request.attempt_agrees w]
    cases request.perform.run w <;> rfl

/-- **Runs in place are runs of the world**, with an idle bench after every request. -/
theorem runs_idle (requests : List Request) (w : World) :
    runs requests (idle w) = (World.runs requests w).map idle := by
  induction requests generalizing w with
  | nil => rfl
  | cons r rest ih =>
    change ((idle w).after r).bind (runs rest) = ((r.after w).bind (World.runs rest)).map idle
    rw [after_idle]
    cases r.after w with
    | none => rfl
    | some v => exact ih v

/-- **A bench that can come about is idle**, whatever requests were refused before, and shows a
world that can come about. -/
theorem reachable_iff {b : Bench} : b.Reachable ↔ ∃ w : World, w.Reachable ∧ b = idle w := by
  constructor
  · rintro ⟨pool, router, feeRecipient, holder, owner, settings, requests, hrun⟩
    rw [runs_idle] at hrun
    obtain ⟨w, hw, rfl⟩ := Option.map_eq_some_iff.1 hrun
    exact ⟨w, ⟨pool, router, feeRecipient, holder, owner, settings, requests, hw⟩, rfl⟩
  · rintro ⟨w, ⟨pool, router, feeRecipient, holder, owner, settings, requests, hw⟩, rfl⟩
    refine ⟨pool, router, feeRecipient, holder, owner, settings, requests, ?_⟩
    rw [runs_idle, hw]
    rfl

end Bench

/-! ## Refusals -/

/-- A request to a desk that is refused leaves the world as it was. -/
theorem World.Orderly.refused_eq {known : Set Lending.MarketParams} {w w' : World}
    (hw : w.Orderly known) {r : DeskRequest}
    (hknown : ∀ p, (Request.desk r).market? = some p → p ∈ known) {e : LeverageError}
    (h : r.perform.run w = .refused e w') : w' = w := by
  cases r with
  | setTime time => cases h
  | advanceTime delay =>
    have hends : ((DeskRequest.advanceTime delay).perform.run w).Ends (fun _ _ => True)
        fun _ _ => False := by
      simp [DeskRequest.perform, World.advanceTime, World.setTime]
    exact (hends.refused h).elim
  | setAnyAllowed caller anyAllowed =>
    have hends : ((DeskRequest.setAnyAllowed caller anyAllowed).perform.run w).Ends
        (fun _ _ => True) fun _ v => v = w := by
      simp [DeskRequest.perform, World.setAnyAllowed, World.changeAllowList]
    exact hends.refused h
  | basket basket operation => exact ((operation.perform_spec hw basket hknown).refused h).1

/-- **A refusal is undone as a whole.** When a request to a desk at work is refused, on any bench
that can come about, the bench is in every part the one from before: the chain, the records, the
allow list, the log and the number of its next event. No event is left to wait, no basket is held,
and the same request would be refused again. -/
theorem Bench.Reachable.refusal_undone {b b' : Bench} (hb : b.Reachable) {r : DeskRequest}
    {e : LeverageError} (h : r.attempt.run b = .refused e b') :
    b' = b ∧ b'.pending = [] ∧ b'.busy = [] ∧ b'.world.Reachable ∧
      r.perform.run b'.world = .refused e b'.world := by
  obtain ⟨w, hw, rfl⟩ := Bench.reachable_iff.1 hb
  rw [r.attempt_agrees w] at h
  cases hrun : r.perform.run w with
  | done a w' =>
    rw [hrun] at h
    cases h
  | refused e' w' =>
    rw [hrun] at h
    obtain ⟨rfl, rfl⟩ : e' = e ∧ Bench.idle w' = b' := Outcome.refused.inj h
    obtain rfl : w' = w := hw.orderly.refused_eq (fun _ _ => trivial) hrun
    exact ⟨rfl, rfl, rfl, hw, hrun⟩
  | aborted =>
    rw [hrun] at h
    cases h

open Deployment in
/-- So it is when the basket of the reference deployment is to be levered beyond its limit: the pool
refuses to lend so much after it has booked the debt, and on the bench there is no such debt. -/
theorem Bench.refusal_undone_of_entering : ∃ w s b',
    World.runs entering (start .usual) = some w ∧
    (Operation.lever manager Deployment.basket (number 2_600_000_000) 0 adapterName [] w.desk).run
      ⟨w.chain, w.desk.records, []⟩ = .refused (.lending .insufficientCollateral) s ∧
    (s.chain.pool.account params.id Deployment.basket).borrowShares.toNat =
      2_600_000_000_000_000 ∧
    (DeskRequest.basket Deployment.basket
      (.lever manager (number 2_600_000_000) 0 adapterName [])).attempt.run (.idle w) =
        .refused (.lending .insufficientCollateral) b' ∧
    (b'.world.chain.pool.account params.id Deployment.basket).borrowShares.toNat = 0 ∧
    b' = .idle w ∧ b'.pending = [] ∧ b'.busy = [] ∧ b'.world.Reachable ∧
      (DeskRequest.basket Deployment.basket
        (.lever manager (number 2_600_000_000) 0 adapterName [])).perform.run b'.world =
          .refused (.lending .insufficientCollateral) b'.world := by
  have hrefused : ((World.runs entering (start .usual)).map fun w =>
      (((Operation.lever manager Deployment.basket (number 2_600_000_000) 0 adapterName []
        w.desk).run ⟨w.chain, w.desk.records, []⟩).isRefusedWith fun e s =>
          decide (e = .lending .insufficientCollateral) &&
          decide ((s.chain.pool.account params.id Deployment.basket).borrowShares.toNat =
            2_600_000_000_000_000)) &&
      ((DeskRequest.basket Deployment.basket
        (.lever manager (number 2_600_000_000) 0 adapterName [])).attempt.run
          (.idle w)).isRefusedWith fun e b' =>
            decide (e = .lending .insufficientCollateral) &&
            decide ((b'.world.chain.pool.account params.id
              Deployment.basket).borrowShares.toNat = 0)) = some true := by
    decide +kernel
  obtain ⟨w, hw, hrefused⟩ := Option.map_eq_some_iff.1 hrefused
  obtain ⟨hsession, hbench⟩ := Bool.and_eq_true_iff.1 hrefused
  obtain ⟨_, s, hlever, hbooked⟩ := Outcome.exists_of_isRefusedWith hsession
  obtain ⟨_, b', hattempt, hundone⟩ := Outcome.exists_of_isRefusedWith hbench
  simp only [Bool.and_eq_true, decide_eq_true_eq] at hbooked hundone
  obtain ⟨rfl, hbooked⟩ := hbooked
  obtain ⟨rfl, hundone⟩ := hundone
  have hreachable : (Bench.idle w).Reachable :=
    Bench.reachable_iff.2 ⟨w, ⟨pool, router, feeRecipient, holder, owner, .usual, _, hw⟩, rfl⟩
  exact ⟨w, s, b', hw, hlever, hbooked, hattempt, hundone,
    Bench.Reachable.refusal_undone hreachable hattempt⟩

end LeveredBasket.Leverage
