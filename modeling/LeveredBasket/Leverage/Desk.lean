/-
The leverage desk, and how its operations run.

A desk remembers one record for each enrolled basket. What a basket holds and
owes is not remembered here: it is read off the chain every time.

An operation works on a session: the chain, the records, and the events so far.
If it goes through, the world takes over the session's chain and records, and
its events go to the log with the desk's time. If it is refused, the world is
the one from before, whatever the session had come to (`World.operate`).
-/
import LeveredBasket.AllowList
import LeveredBasket.Chain
import LeveredBasket.Event
import LeveredBasket.Leverage.Error
import LeveredBasket.Leverage.Report
import LeveredBasket.Settings

set_option autoImplicit false

namespace LeveredBasket.Leverage

open Exchange (ExchangeError)
open Lending (Bank MarketId MarketParams)

/-! ## Records -/

/-- **What a desk remembers of a basket** (`BasketRecord`). -/
structure Record where
  params : MarketParams
  market : MarketId
  /-- Whether the collateral has been moved into the market. -/
  entered : Bool
  /-- The orchestrators with which the desk has registered its hooks. -/
  issuers : List Address
deriving DecidableEq

namespace Record

/-- What stands behind the basket's positions on this chain, without new interest
(`LeverageModule::read_balances`). -/
def balances (r : Record) (c : Chain) (basket : Address) : Except LeverageError Balances := do
  let account := c.pool.account r.market basket
  let totals ← (c.pool.totals r.market).mapError .lending
  let borrow ← (totals.debt account.borrowShares).mapError .math
  let held := c.tokens.balance r.params.collateralAsset basket
  let collateral ← (held.add account.collateral).mapError .math
  pure ⟨collateral, borrow, account.borrowShares⟩

end Record

/-! ## Desks -/

/-- **A leverage desk** (`LeverageModule`). -/
structure Desk where
  /-- The module that the desk is to baskets. -/
  address : Address
  owner : Address
  settings : Settings
  records : FiniteMap Address Record
  allowList : AllowList
  log : EventLog
  clock : Instant
deriving DecidableEq

namespace Desk

/-- A desk that has done nothing yet. -/
def create (address owner : Address) (settings : Settings) : Desk :=
  ⟨address, owner, settings, .empty, .empty, .empty, .epoch⟩

/-- How far a basket has come (`LeverageModule::lever_state`). -/
def leverState (d : Desk) (c : Chain) (basket : Address) : LeverState :=
  match d.records.get? basket with
  | none => .uninitialized
  | some r =>
    if r.entered then
      if 0 < (c.pool.account r.market basket).borrowShares then .levered else .collateralized
    else .initialized

/-- What stands behind an enrolled basket's positions, without new interest
(`LeverageModule::collateral_and_borrow_balances`). -/
def balances (d : Desk) (c : Chain) (basket : Address) : Except LeverageError Balances :=
  match d.records.get? basket with
  | none => .error (.notInitialized basket)
  | some r => r.balances c basket

/-- Puts events in the log, with the desk's time (`LeverageModule::flush_events`). -/
def publish? (d : Desk) (payloads : List EventPayload) : Option Desk :=
  (d.log.append? d.settings.maxEvents.toNat d.clock payloads).map fun log => { d with log := log }

end Desk

/-! ## Worlds -/

/-- **A chain and a desk on it.** -/
structure World where
  chain : Chain
  desk : Desk
deriving DecidableEq

/-- A call that goes to the chain without the desk. It keeps what it changed where it is refused. -/
def World.onChain {ε α : Type} (x : Action Chain ε α) : Action World ε α :=
  x.within (·.chain) fun w c => { w with chain := c }

/-- An operation in progress. -/
structure Session where
  chain : Chain
  records : FiniteMap Address Record
  /-- What is to be said about it, the first event first. -/
  events : List EventPayload

/-- **What an operation does to a session.** -/
abbrev Operation (α : Type) := Action Session LeverageError α

/-- **Runs an operation, whole or not at all** (`LeverageModule::transact`). -/
def World.operate {α : Type} (op : Desk → Operation α) : Action World LeverageError α := fun w =>
  match op w.desk ⟨w.chain, w.desk.records, []⟩ with
  | .done a s =>
    -- events that can no longer be numbered end the run, though the operation went through
    match { w.desk with records := s.records }.publish? s.events with
    | some desk => .done a ⟨s.chain, desk⟩
    | none => .aborted
  | .refused e _ => .refused e w
  | .aborted => .aborted

/-! ## Steps of an operation -/

namespace Operation

/-- The result of a computation. -/
def compute {α : Type} (x : Except MathError α) : Operation α := .ofExcept (x.mapError .math)

/-- A call on the chain. -/
def onChain {ε α : Type} (refusal : ε → LeverageError) (x : Action Chain ε α) : Operation α :=
  x.within (·.chain) (fun s c => { s with chain := c }) |>.mapError refusal

/-- A call on tokens, baskets or hook tables. -/
def ledger {α : Type} (x : Chain.Call α) : Operation α := onChain .ledger x

/-- A call on the lending pool. -/
def lending {α : Type} (x : Bank.Call α) : Operation α := onChain .lending (Chain.onBank x)

/-- A call on an exchange. -/
def exchange {α : Type} (x : Action Chain ExchangeError α) : Operation α := onChain .exchange x

/-- Says that something happened (`LeverageModule::emit_event`). -/
def emit (payload : EventPayload) : Operation Unit :=
  .modify fun s => { s with events := s.events ++ [payload] }

/-- The supply of a basket. -/
def supplyOf (basket : Address) : Operation Amount := do
  let b ← ledger (Chain.theBasket basket)
  pure b.supply

/-- What a basket has in its wallet. -/
def walletOf (basket asset : Address) : Operation Amount :=
  .read (·.chain.tokens.balance asset basket)

/-- What stands behind a basket's positions. -/
def balancesOf (r : Record) (basket : Address) : Operation Balances := fun s =>
  Action.ofExcept (r.balances s.chain basket) s

/-- Keeps a record. -/
def keep (basket : Address) (r : Record) : Operation Unit :=
  .modify fun s => { s with records := s.records.insert basket r }

/-! ## Who may do what -/

/-- The basket is enabled, and the caller manages it (`LeverageModule::only_manager`). -/
def requireManager (caller basket : Address) : Operation Unit := do
  let enabled ← .read (·.chain.registry.basketEnabled basket)
  .require (enabled = true) (.basketNotEnabled basket)
  let b ← ledger (Chain.theBasket basket)
  .require (b.manager = caller) (.notManager caller basket)

/-- The desk is initialized on the basket and remembers it (`LeverageModule::initialized_record`).
The value is the record. -/
def recordOf (d : Desk) (basket : Address) : Operation Record := do
  let status ← .read (·.chain.status basket d.address)
  .require (status = .initialized) (.notInitialized basket)
  let found ← .read (·.records.get? basket)
  .orRefuse (.notInitialized basket) found

/-- The caller is initialized on the basket, enabled, and one of the orchestrators with which the
desk has registered its hooks, if it remembers the basket (`LeverageModule::only_module`). -/
def requireIssuer (caller basket : Address) : Operation Unit := do
  let status ← .read (·.chain.status basket caller)
  .require (status = .initialized) (.notInitializedModule caller)
  let enabled ← .read (·.chain.registry.moduleEnabled caller)
  .require (enabled = true) (.moduleNotEnabled caller)
  let found ← .read (·.records.get? basket)
  -- a basket that the desk does not remember is left to whoever looks for its record
  match found with
  | some r => .require (caller ∈ r.issuers) (.unregisteredIssuanceModule caller basket)
  | none => pure ()

end Operation

end LeveredBasket.Leverage
