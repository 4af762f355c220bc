/-
Keeping a basket's position units in line with what stands behind them.

The two external positions of a basket are rewritten from the market's books
and the basket's wallet: the collateral unit rounds down, the debt unit away
from zero. Around an issuance only the debt unit is rewritten, against the
supply that the basket will have, because equity moves in and out at the
collateral unit as it stands.
-/
import LeveredBasket.Leverage.Desk

set_option autoImplicit false

namespace LeveredBasket.Leverage

open Lending (Bank)

namespace Operation

/-- Writes a desk's own unit of a component. -/
def writeExternal (d : Desk) (basket component : Address) (unit : PositionUnit) :
    Operation Unit := do
  let _ ← ledger (Chain.writePosition basket (.ofExternal component d.address unit))

/-- Writes a basket's own unit of a component. -/
def writeDefault (basket component : Address) (unit : PositionUnit) : Operation Unit := do
  let _ ← ledger (Chain.writePosition basket (.ofDefault component unit))

/-- Writes the debt unit for so much debt. The value is the unit. -/
def writeDebt (d : Desk) (basket : Address) (r : Record) (borrow supply : Amount) :
    Operation PositionUnit := do
  let unit ← compute (PositionUnit.ofDebt borrow supply)
  writeExternal d basket r.params.loanAsset unit
  pure unit

/-- Rewrites both external positions (`LeverageModule::write_positions`). Collateral that has not
been entered stays as it is. -/
def writePositions (d : Desk) (basket : Address) (r : Record) (supply : Amount) :
    Operation SyncReport := do
  -- both units come from one reading, and writing the one does not change what the other is of
  let balances ← balancesOf r basket
  let collateralUnit ←
    if r.entered then do
      let unit ← compute (PositionUnit.ofHolding balances.collateral supply)
      writeExternal d basket r.params.collateralAsset unit
      pure unit
    else do
      let b ← ledger (Chain.theBasket basket)
      pure (b.defaultUnit r.params.collateralAsset)
  let borrowUnit ← writeDebt d basket r balances.borrow supply
  pure ⟨supply, collateralUnit, borrowUnit, balances.collateral, balances.borrow⟩

/-- Says that units were written. -/
def emitSynced (basket : Address) (report : SyncReport) : Operation Unit :=
  emit (.positionsSynced basket report.collateralUnit report.borrowUnit report.supply)

/-- Accrues interest and rewrites both positions, unless the basket has no supply
(`LeverageModule::sync_positions`). -/
def syncPositions (d : Desk) (basket : Address) (r : Record) : Operation (Option SyncReport) := do
  let supply ← supplyOf basket
  if supply = 0 then pure none
  else do
    lending (Bank.accrue r.params)
    let report ← writePositions d basket r supply
    emitSynced basket report
    pure (some report)

/-- Accrues interest and rewrites the debt unit against the supply that the basket will have,
unless that is none (`LeverageModule::sync_debt_for_supply`). -/
def syncDebtForSupply (d : Desk) (basket : Address) (r : Record) (supply : Amount) :
    Operation Unit := do
  if supply = 0 then pure ()
  else do
    lending (Bank.accrue r.params)
    let balances ← balancesOf r basket
    let borrowUnit ← writeDebt d basket r balances.borrow supply
    -- the collateral is only reported: at its unit as it stands, for the supply to come
    let b ← ledger (Chain.theBasket basket)
    let collateralUnit :=
      if r.entered then b.externalUnit r.params.collateralAsset d.address
      else b.defaultUnit r.params.collateralAsset
    let notional ← compute (collateralUnit.notionalSize supply)
    emitSynced basket ⟨supply, collateralUnit, borrowUnit, notional, balances.borrow⟩

end Operation

namespace World

/-- Brings a basket's units up to date, for anyone who asks (`LeverageModule::sync`). -/
def sync (basket : Address) : Action World LeverageError (Option SyncReport) :=
  operate fun d => do
    let r ← Operation.recordOf d basket
    Operation.syncPositions d basket r

end World

end LeveredBasket.Leverage
