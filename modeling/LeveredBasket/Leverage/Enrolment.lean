/-
Enrolling baskets and letting them go.

A basket is enrolled by its manager, if the allow list permits it, with the
market it is to borrow from. Hooks are registered with the usual orchestrator
then and there, and with others later. A basket lets the desk go by itself, but
not while it owes anything; its collateral then becomes a default position
again. The allow list is the owner's.
-/
import LeveredBasket.Leverage.Reconcile

set_option autoImplicit false

namespace LeveredBasket.Leverage

open Lending (Bank MarketParams)

namespace Operation

/-- The status of a module on a basket is as given. -/
def requireStatus (basket holder : Address) (status : ModuleStatus) (e : LeverageError) :
    Operation Unit := do
  let actual ← .read (·.chain.status basket holder)
  .require (actual = status) e

def enrol (caller basket : Address) (params : MarketParams) (d : Desk) : Operation Unit := do
  requireManager caller basket
  requireStatus basket d.address .pending (.notPendingInitialization basket)
  let known ← .read (·.records.contains basket)
  .require (known = false) (.alreadyInitialized basket)
  .require (d.allowList.permits basket = true) (.basketNotAllowed basket)
  .require (params.collateralAsset ≠ params.loanAsset) (.invalidMarketParams params.loanAsset)
  let name := d.settings.issuanceName
  let found ← .read (·.chain.registry.integration? d.address name)
  let issuer ← .orRefuse (.invalidIssuanceModule name) found
  requireStatus basket issuer .initialized (.issuanceNotInitialized issuer)
  -- the market is only asked whether it is there
  let _ ← lending (Bank.market params)
  ledger (Chain.confirmModule basket d.address)
  ledger (Chain.registerHook issuer basket d.address)
  keep basket ⟨params, params.id, false, [issuer]⟩
  emit (.moduleInitialized basket params.id params issuer)

def registerIssuer (caller basket issuer : Address) (d : Desk) : Operation Unit := do
  requireManager caller basket
  let r ← recordOf d basket
  requireStatus basket issuer .initialized (.issuanceNotInitialized issuer)
  ledger (Chain.registerHook issuer basket d.address)
  keep basket
    { r with issuers := if issuer ∈ r.issuers then r.issuers else r.issuers ++ [issuer] }
  emit (.issuanceModuleRegistered basket issuer)

/-- Makes the collateral in the basket's wallet a default position in place of the external one. A
basket without supply has no units. -/
def restoreCollateral (d : Desk) (r : Record) (basket : Address) : Operation Unit := do
  let collateral := r.params.collateralAsset
  writeExternal d basket collateral .zero
  let supply ← supplyOf basket
  if supply = 0 then pure ()
  else do
    let held ← walletOf basket collateral
    let unit ← compute (PositionUnit.ofHolding held supply)
    writeDefault basket collateral unit

def letGo (caller basket : Address) (d : Desk) : Operation Amount := do
  .require (caller = basket) (.notBasket caller basket)
  let found ← .read (·.records.get? basket)
  let r ← .orRefuse (.notInitialized basket) found
  lending (Bank.accrue r.params)
  let account ← .read (·.chain.pool.account r.market basket)
  .require (account.borrowShares = 0) (.borrowOutstanding account.borrowShares)
  if account.collateral = 0 then pure ()
  else lending (Bank.withdrawCollateral r.params basket account.collateral basket)
  writeExternal d basket r.params.loanAsset .zero
  if r.entered then restoreCollateral d r basket else pure ()
  -- a hook that is no longer there is passed over
  .modify fun s =>
    { s with
      chain := r.issuers.foldl (fun c issuer => c.dropHook issuer basket d.address) s.chain
      records := s.records.erase basket }
  emit (.moduleRemoved basket account.collateral)
  pure account.collateral

end Operation

namespace World

/-- The manager binds a basket to a market (`LeverageModule::initialize`). -/
def enrol (caller basket : Address) (params : MarketParams) : Action World LeverageError Unit :=
  operate (Operation.enrol caller basket params)

/-- The manager has the desk's hooks registered with another orchestrator
(`LeverageModule::register_to_module`). -/
def registerIssuer (caller basket issuer : Address) : Action World LeverageError Unit :=
  operate (Operation.registerIssuer caller basket issuer)

/-- The basket lets the desk go (`LeverageModule::remove_module`). The value is the collateral that
it has back. -/
def letGo (caller basket : Address) : Action World LeverageError Amount :=
  operate (Operation.letGo caller basket)

/-! ## The allow list -/

/-- Changes the allow list, and says so. -/
def changeAllowList (change : AllowList → Option AllowList) (payload : EventPayload) :
    Action World LeverageError Unit := do
  let w ← .read id
  let allowList ← .orAbort (change w.desk.allowList)
  let desk ← .orAbort ({ w.desk with allowList := allowList }.publish? [payload])
  .modify fun w => { w with desk := desk }

/-- The owner lists or delists a basket, one that is enabled or listed already
(`LeverageModule::update_allowed_basket`). -/
def setAllowed (caller basket : Address) (allowed : Bool) : Action World LeverageError Unit := do
  let w ← .read id
  .require (caller = w.desk.owner) (.notOwner caller)
  .require (w.chain.registry.basketEnabled basket = true ∨ w.desk.allowList.isListed basket = true)
    (.invalidBasket basket)
  changeAllowList (·.setAllowed? basket allowed) (.allowListUpdated basket allowed)

/-- The owner permits every basket, or no longer every basket
(`LeverageModule::update_any_basket_allowed`). -/
def setAnyAllowed (caller : Address) (anyAllowed : Bool) : Action World LeverageError Unit := do
  let w ← .read id
  .require (caller = w.desk.owner) (.notOwner caller)
  changeAllowList (·.setAnyAllowed? anyAllowed) (.anyBasketAllowedUpdated anyAllowed)

/-! ## The desk's clock (`LeverageModule::set_time`, `LeverageModule::advance_time`) -/

def setTime (time : Instant) : Action World LeverageError Instant := do
  .modify fun w => { w with desk := { w.desk with clock := time } }
  pure time

/-- Moves the clock of the desk. -/
def advanceTime (delay : IntWord 64) : Action World LeverageError Instant := do
  let w ← .read id
  let time ← .orAbort (w.desk.clock.later? delay)
  setTime time

end World

end LeveredBasket.Leverage
