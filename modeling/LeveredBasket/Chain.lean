/-
The chain: tokens, lending pool, registry, venue, baskets and hooks together.

A basket's calls on the chain are refused where there is no such basket. A
position is written only if it changes something, and a default position never
below zero. An issuance orchestrator that is initialized on a basket keeps a
list of hooks for it.
-/
import LeveredBasket.Basket
import LeveredBasket.Exchange.Venue
import LeveredBasket.Lending.Pool
import LeveredBasket.Registry

set_option autoImplicit false

namespace LeveredBasket

open Exchange (Venue TradeCall ExchangeError)

/-- **The chain** (`SimChain`). -/
structure Chain extends Lending.Bank where
  registry : Registry
  venue : Venue
  baskets : FiniteMap Address Basket
  /-- The hooks of an orchestrator (first) for a basket (second), each once. -/
  hooks : FiniteMap (Address × Address) (List Address)
deriving DecidableEq

namespace Chain

/-- A call on the chain that tokens, baskets or hook tables may refuse. -/
abbrev Call (α : Type) := Action Chain LedgerError α

/-- A chain with nothing on it. -/
def create (pool router feeRecipient : Address) : Chain where
  tokens := .empty
  pool := .create pool
  registry := .create feeRecipient
  venue := .create router
  baskets := .empty
  hooks := .empty

/-! ## Parts -/

/-- A call on the tokens and the pool. -/
def onBank {ε α : Type} (x : Action Lending.Bank ε α) : Action Chain ε α :=
  x.within toBank fun c b => { c with toBank := b }

/-- A call on the tokens. -/
def onTokens {ε α : Type} (x : Action TokenBook ε α) : Action Chain ε α :=
  x.within (·.tokens) fun c t => { c with tokens := t }

/-! ## Baskets -/

/-- The basket of this address, which there has to be. -/
def basket (c : Chain) (address : Address) : Except LedgerError Basket :=
  match c.baskets.get? address with
  | some b => .ok b
  | none => .error (.basketNotFound address)

/-- The basket of this address as it stands. -/
def theBasket (address : Address) : Call Basket := fun c => Action.ofExcept (c.basket address) c

def setBasket (c : Chain) (address : Address) (b : Basket) : Chain :=
  { c with baskets := c.baskets.insert address b }

def positions (c : Chain) (address : Address) : List Position :=
  match c.baskets.get? address with
  | some b => b.positions
  | none => []

/-- The status of a module on a basket; none where there is no such basket. -/
def status (c : Chain) (address holder : Address) : ModuleStatus :=
  match c.baskets.get? address with
  | some b => b.status holder
  | none => .none

/-- Puts the notional of each component into a new basket, and its unit on the list. -/
def fund (b : Basket) : List (Address × PositionUnit) → Call Basket
  | [] => pure b
  | (component, unit) :: rest => do
    .require (unit.isNegative = false) (.negativeDefaultUnit unit)
    -- rounded up, so that the basket never has less than its units say
    let notional ← .ofExcept
      ((unit.notionalSizeUp b.supply).mapError fun e => .callFailed e.message)
    onTokens (TokenBook.mint component b.address notional)
    fund (b.setDefault component unit) rest

/-- Creates a basket that holds the notional of its components, and enables it
(`SimChain::create_basket`). What was minted before a component is refused stays minted. -/
def createBasket (address manager : Address) (supply : Amount)
    (components : List (Address × PositionUnit)) : Call Unit := do
  let b ← fund (.create address manager supply) components
  .modify fun c => { c.setBasket address b with registry := c.registry.addBasket address }

/-- Sets how far a module has come on a basket. -/
def setStatus (address holder : Address) (status : ModuleStatus) : Call Unit := do
  let b ← theBasket address
  .modify (·.setBasket address (b.setStatus holder status))

/-- Takes a module on; it is pending until it initializes itself (`SimChain::add_module`). -/
def addModule (address holder : Address) : Call Unit := setStatus address holder .pending

/-- Lets a module go (`SimChain::detach_module`). -/
def detachModule (address holder : Address) : Call Unit := setStatus address holder .none

/-- Ends a module's pending (`PositionLedger::initialize_module`). -/
def confirmModule (address holder : Address) : Call Unit := do
  let b ← theBasket address
  .require (b.status holder = .pending) (.moduleNotPending holder)
  .modify (·.setBasket address (b.setStatus holder .initialized))

/-- Sets the supply of a basket, if there is such a basket (`SimChain::set_total_supply`). -/
def setSupply (c : Chain) (address : Address) (supply : Amount) : Chain :=
  match c.baskets.get? address with
  | some b => c.setBasket address { b with supply := supply }
  | none => c

/-! ## Positions -/

/-- A default position below zero is refused. -/
def requireUnit (p : Position) : Call Unit :=
  .require (¬(p.kind = .default ∧ p.unit.isNegative = true)) (.negativeDefaultUnit p.unit)

/-- Puts a position on a basket's list (`PositionLedger::edit_default_position`,
`PositionLedger::edit_external_position`). -/
def editPosition (address : Address) (p : Position) : Call Unit := do
  requireUnit p
  let b ← theBasket address
  .modify (·.setBasket address { b with positions := Positions.write p b.positions })

/-- Puts a position on a basket's list unless it is there (`position::write_position`). The value is
whether it was put. -/
def writePosition (address : Address) (p : Position) : Call Bool := do
  requireUnit p
  let b ← theBasket address
  if Positions.unit p b.positions = p.unit then pure false
  else do
    .modify (·.setBasket address { b with positions := Positions.write p b.positions })
    pure true

/-! ## A basket's own calls -/

/-- The basket moves tokens of its own (`PositionLedger::invoke_transfer`). -/
def invokeTransfer (address asset recipient : Address) (amount : Amount) : Call Unit := do
  let _ ← theBasket address
  onTokens (TokenBook.transfer asset address recipient amount)

/-- The basket sets an allowance on tokens of its own (`PositionLedger::invoke_approve`). -/
def invokeApprove (address asset spender : Address) (amount : Amount) : Call Unit := do
  let _ ← theBasket address
  .modify fun c => { c with tokens := c.tokens.approve asset address spender amount }

/-- The basket makes a call on the venue (`TradeExecutor::execute_trade`). -/
def invokeTrade (address : Address) (call : TradeCall) : Action Chain ExchangeError Unit := do
  -- here an unknown basket is the exchange's refusal, not the ledger's
  let known ← .read fun c => c.baskets.contains address
  .require (known = true) (.executionFailed (.unknownBasket address))
  let venue ← .read (·.venue)
  let _ ← onTokens (venue.swap address call)

/-! ## Hooks -/

def hooksOf (c : Chain) (orchestrator address : Address) : List Address :=
  c.hooks.getD (orchestrator, address) []

def setHooks (c : Chain) (orchestrator address : Address) (hooks : List Address) : Chain :=
  { c with hooks := c.hooks.insert (orchestrator, address) hooks }

/-- Puts a hook on an orchestrator's list for a basket (`DebtIssuance::register_hook`). -/
def registerHook (orchestrator address hook : Address) : Call Unit := do
  let status ← .read (·.status address orchestrator)
  .require (status = .initialized) (.hookRegistration orchestrator)
  let hooks ← .read (·.hooksOf orchestrator address)
  .modify (·.setHooks orchestrator address (if hook ∈ hooks then hooks else hooks ++ [hook]))

/-- Takes a hook off an orchestrator's list for a basket. -/
def dropHook (c : Chain) (orchestrator address hook : Address) : Chain :=
  if hook ∈ c.hooksOf orchestrator address then
    c.setHooks orchestrator address ((c.hooksOf orchestrator address).filter (· ≠ hook))
  else c

/-- Takes a hook off an orchestrator's list for a basket, on which it has to be
(`DebtIssuance::unregister_hook`). -/
def unregisterHook (orchestrator address hook : Address) : Call Unit := do
  let hooks ← .read (·.hooksOf orchestrator address)
  .require (hook ∈ hooks) (.hookRegistration orchestrator)
  .modify (·.dropHook orchestrator address hook)

end Chain

end LeveredBasket
