/-
Levering up and down.

Entering moves a basket's default collateral position into the market. Levering
borrows the loan asset, swaps it and supplies what comes back; delevering
withdraws collateral, swaps it and repays. Each ends by rewriting the basket's
external positions. Delevering to zero insists on clearing the debt; a plain
delevering repays as much of it as the swap brought.
-/
import LeveredBasket.Leverage.Reconcile
import LeveredBasket.Leverage.Swap

set_option autoImplicit false

namespace LeveredBasket.Leverage

open Lending (Bank RepayAmount)

namespace Operation

/-- The record of a basket whose collateral has been entered, for its manager. -/
def enteredRecord (d : Desk) (caller basket : Address) : Operation Record := do
  requireManager caller basket
  let r ← recordOf d basket
  .require (r.entered = true) (.collateralNotEntered basket)
  pure r

/-! ## Entering -/

def enter (caller basket : Address) (d : Desk) : Operation SyncReport := do
  requireManager caller basket
  let r ← recordOf d basket
  .require (r.entered = false) (.collateralAlreadyEntered basket)
  let collateral := r.params.collateralAsset
  let b ← ledger (Chain.theBasket basket)
  let unit := b.defaultUnit collateral
  .require (unit.isPositive = true) (.noCollateralPosition basket)
  -- what rounding leaves in the wallet still counts as collateral, once the units are rewritten
  let notional ← compute (unit.notionalSize b.supply)
  .require (notional ≠ 0) .zeroQuantity
  lending (Bank.supplyCollateral r.params basket notional)
  writeDefault basket collateral .zero
  let r := { r with entered := true }
  keep basket r
  let report ← writePositions d basket r b.supply
  emit (.collateralEntered basket collateral notional report.collateralUnit)
  pure report

/-! ## Up -/

def lever (caller basket : Address) (borrowUnits minReceiveUnits : Amount) (adapterName : String)
    (route : Bytes) (d : Desk) : Operation LeverReport := do
  let r ← enteredRecord d caller basket
  let loan := r.params.loanAsset
  let collateral := r.params.collateralAsset
  lending (Bank.accrue r.params)
  let p ← planPerToken d basket loan collateral borrowUnits minReceiveUnits adapterName
  let borrowed ← lending (Bank.borrow r.params basket p.sendQuantity basket)
  let received ← trade p route
  let fee ← chargeFee d basket collateral received
  let net ← compute (received.sub fee)
  -- the pool refuses to be supplied with nothing
  if net = 0 then pure ()
  else lending (Bank.supplyCollateral r.params basket net)
  let report ← writePositions d basket r p.supply
  emit (.leverageIncreased
    ⟨basket, loan, collateral, p.adapterName, borrowed.assets, received, fee⟩)
  pure ⟨borrowed.assets, received, fee, net, report.collateralUnit, report.borrowUnit⟩

/-! ## Down -/

/-- Repays up to `available` of the debt (`LeverageModule::repay_capped`). Where that covers the
whole debt, exactly its shares are repaid, so that nothing is left over. The value is what was
repaid. -/
def repayCapped (r : Record) (basket : Address) (available : Amount) : Operation Amount := do
  let balances ← balancesOf r basket
  if balances.borrowShares = 0 ∨ available = 0 then pure 0
  else do
    let amount : RepayAmount :=
      if balances.borrow ≤ available then .shares balances.borrowShares else .assets available
    let moved ← lending (Bank.repay r.params basket amount)
    pure moved.assets

/-- Makes the loan asset in the basket's wallet a default position
(`LeverageModule::write_loan_residual`). The value is how much it is. -/
def writeResidual (r : Record) (basket : Address) (supply : Amount) : Operation Amount := do
  let residual ← walletOf basket r.params.loanAsset
  let unit ← compute (PositionUnit.ofHolding residual supply)
  writeDefault basket r.params.loanAsset unit
  pure residual

/-- Withdraws and swaps collateral as planned, and takes the fee. The values are what arrived, the
fee, and what is left to repay with. -/
def sellCollateral (d : Desk) (r : Record) (p : TradePlan) (route : Bytes) :
    Operation (Amount × Amount × Amount) := do
  lending (Bank.withdrawCollateral r.params p.basket p.sendQuantity p.basket)
  let received ← trade p route
  let fee ← chargeFee d p.basket p.receiveAsset received
  let net ← compute (received.sub fee)
  pure (received, fee, net)

/-- What both ways down end with (`LeverageModule::finish_delever`). -/
def finishDelever (d : Desk) (r : Record) (p : TradePlan) (received fee repaid : Amount) :
    Operation DeleverReport := do
  let loan := r.params.loanAsset
  -- what the wallet still has of the loan asset is written as the basket's own
  let residual ← writeResidual r p.basket p.supply
  let report ← writePositions d p.basket r p.supply
  let account ← .read (·.chain.pool.account r.market p.basket)
  let fully : Bool := account.borrowShares = 0
  emit (.leverageDecreased ⟨p.basket, r.params.collateralAsset, loan, p.adapterName,
    p.sendQuantity, received, fee⟩)
  if fully then emit (.fullyDelevered p.basket loan residual) else pure ()
  pure ⟨p.sendQuantity, received, fee, repaid, report.collateralUnit, report.borrowUnit, fully⟩

def delever (caller basket : Address) (redeemUnits minRepayUnits : Amount) (adapterName : String)
    (route : Bytes) (d : Desk) : Operation DeleverReport := do
  let r ← enteredRecord d caller basket
  lending (Bank.accrue r.params)
  let p ← planPerToken d basket r.params.collateralAsset r.params.loanAsset redeemUnits
    minRepayUnits adapterName
  let (received, fee, net) ← sellCollateral d r p route
  let repaid ← repayCapped r basket net
  finishDelever d r p received fee repaid

def deleverToZero (caller basket : Address) (redeemUnits : Amount) (adapterName : String)
    (route : Bytes) (d : Desk) : Operation DeleverReport := do
  let r ← enteredRecord d caller basket
  lending (Bank.accrue r.params)
  -- interest is in by now, so the trade has to bring the whole debt at once
  let balances ← balancesOf r basket
  .require (balances.borrowShares ≠ 0) .borrowBalanceZero
  let supply ← supplyOf basket
  let sendQuantity ← compute (Amount.preciseMul redeemUnits supply)
  let p ← plan d basket r.params.collateralAsset r.params.loanAsset sendQuantity balances.borrow
    adapterName
  let (received, fee, net) ← sellCollateral d r p route
  -- the trade has brought enough, but the fee may have taken too much of it
  .require (balances.borrow ≤ net) (.slippageTooHigh net balances.borrow)
  let moved ← lending (Bank.repay r.params basket (.shares balances.borrowShares))
  finishDelever d r p received fee moved.assets

end Operation

namespace World

/-- The manager moves the basket's default collateral position into the market
(`LeverageModule::enter_collateral_position`). -/
def enter (caller basket : Address) : Action World LeverageError SyncReport :=
  operate (Operation.enter caller basket)

/-- The manager borrows `borrowUnits` of the loan asset per basket token, swaps it for at least
`minReceiveUnits` of collateral per token, and supplies that (`LeverageModule::lever`). -/
def lever (caller basket : Address) (borrowUnits minReceiveUnits : Amount) (adapterName : String)
    (route : Bytes) : Action World LeverageError LeverReport :=
  operate (Operation.lever caller basket borrowUnits minReceiveUnits adapterName route)

/-- The manager withdraws `redeemUnits` of collateral per basket token, swaps it for at least
`minRepayUnits` of the loan asset per token, and repays (`LeverageModule::delever`). What is left
over stays with the basket. -/
def delever (caller basket : Address) (redeemUnits minRepayUnits : Amount) (adapterName : String)
    (route : Bytes) : Action World LeverageError DeleverReport :=
  operate (Operation.delever caller basket redeemUnits minRepayUnits adapterName route)

/-- The manager withdraws `redeemUnits` of collateral per basket token, swaps it, and repays the
whole debt (`LeverageModule::delever_to_zero_borrow_balance`). -/
def deleverToZero (caller basket : Address) (redeemUnits : Amount) (adapterName : String)
    (route : Bytes) : Action World LeverageError DeleverReport :=
  operate (Operation.deleverToZero caller basket redeemUnits adapterName route)

end World

end LeveredBasket.Leverage
