/-
What the desk does while basket tokens are issued and redeemed.

The orchestrator of an issuance calls the desk twice. Before it works out
amounts it has the units brought up to date. For the debt of the tokens it then
has the loan asset borrowed into the basket, when tokens are issued, or repaid
out of it, when they are redeemed. Equity is none of the desk's business.

A borrowing rounds down. A repayment rounds up, and is capped at the debt.
-/
import LeveredBasket.Leverage.Adjust

set_option autoImplicit false

namespace LeveredBasket.Leverage

open Lending (Bank)

namespace Operation

/-- What both module hooks do. -/
def moduleHook (caller basket : Address) (d : Desk) : Operation (Option SyncReport) := do
  requireIssuer caller basket
  let r ← recordOf d basket
  syncPositions d basket r

/-- The unit of the debt that a component hook is about, which has to be negative. -/
def debtUnit (d : Desk) (r : Record) (basket component : Address) : Operation PositionUnit := do
  let loan := r.params.loanAsset
  .require (component = loan) (.debtComponentMismatch component loan)
  let b ← ledger (Chain.theBasket basket)
  let unit := b.externalUnit component d.address
  .require (unit.isNegative = true) (.debtUnitNotNegative unit)
  pure unit

def issueHook (caller basket : Address) (quantity : Amount) (component : Address)
    (isEquity : Bool) (d : Desk) : Operation Amount := do
  requireIssuer caller basket
  let r ← recordOf d basket
  if isEquity then pure 0
  else do
    let unit ← debtUnit d r basket component
    let notional ← compute (unit.notionalSize quantity)
    -- the pool refuses to lend nothing
    if notional = 0 then pure ()
    else do
      let _ ← lending (Bank.borrow r.params basket notional basket)
    if d.settings.syncOnHook then do
      let supply ← supplyOf basket
      -- the tokens are minted after the hook, so the supply is still the one from before
      let minted ← compute (supply.add quantity)
      syncDebtForSupply d basket r minted
    else pure ()
    emit (.issueHookBorrowed ⟨basket, component, quantity, notional⟩)
    pure notional

def redeemHook (caller basket : Address) (quantity : Amount) (component : Address)
    (isEquity : Bool) (d : Desk) : Operation Amount := do
  requireIssuer caller basket
  let r ← recordOf d basket
  if isEquity then pure 0
  else do
    let unit ← debtUnit d r basket component
    let owed ← compute (unit.notionalSizeUp quantity)
    let repaid ← repayCapped r basket owed
    if d.settings.syncOnHook then do
      let supply ← supplyOf basket
      let burned ← compute (supply.sub quantity)
      syncDebtForSupply d basket r burned
    else pure ()
    emit (.redeemHookRepaid ⟨basket, component, quantity, repaid⟩)
    pure repaid

end Operation

namespace World

/-- An orchestrator has the units brought up to date before an issuance or a redemption
(`LeverageModule::module_issue_hook`, `LeverageModule::module_redeem_hook`). -/
def moduleHook (caller basket : Address) : Action World LeverageError (Option SyncReport) :=
  operate (Operation.moduleHook caller basket)

/-- An orchestrator has the debt of `quantity` new tokens borrowed into the basket
(`LeverageModule::component_issue_hook`). The value is what was borrowed. -/
def issueHook (caller basket : Address) (quantity : Amount) (component : Address)
    (isEquity : Bool) : Action World LeverageError Amount :=
  operate (Operation.issueHook caller basket quantity component isEquity)

/-- An orchestrator has the debt of `quantity` redeemed tokens repaid out of the basket
(`LeverageModule::component_redeem_hook`). The value is what was repaid. -/
def redeemHook (caller basket : Address) (quantity : Amount) (component : Address)
    (isEquity : Bool) : Action World LeverageError Amount :=
  operate (Operation.redeemHook caller basket quantity component isEquity)

end World

end LeveredBasket.Leverage
