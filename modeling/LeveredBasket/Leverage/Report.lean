/-
What operations on a levered basket report.
-/
import LeveredBasket.Json.Form

set_option autoImplicit false

namespace LeveredBasket.Leverage

open JsonForm (encode)

/-- How far a basket has come (`LeverState`). -/
inductive LeverState where
  /-- Not enrolled. -/
  | uninitialized
  /-- Enrolled; its collateral is still a default position. -/
  | initialized
  /-- Its collateral is in the market, and it owes nothing. -/
  | collateralized
  /-- It owes something. -/
  | levered
deriving DecidableEq

def LeverState.name : LeverState → String
  | uninitialized => "Uninitialized"
  | initialized => "Initialized"
  | collateralized => "Collateralized"
  | levered => "Levered"

/-- What levering did (`LeverResult`). -/
structure LeverReport where
  borrowed : Amount
  received : Amount
  protocolFee : Amount
  collateralSupplied : Amount
  collateralUnit : PositionUnit
  borrowUnit : PositionUnit
deriving DecidableEq

/-- What delevering did (`DeleverResult`). -/
structure DeleverReport where
  collateralWithdrawn : Amount
  received : Amount
  protocolFee : Amount
  repaid : Amount
  collateralUnit : PositionUnit
  borrowUnit : PositionUnit
  fullyDelevered : Bool
deriving DecidableEq

/-- The units that were written, and the balances they were written for (`SyncResult`). -/
structure SyncReport where
  supply : Amount
  collateralUnit : PositionUnit
  borrowUnit : PositionUnit
  collateralNotional : Amount
  borrowNotional : Amount
deriving DecidableEq

/-- What stands behind a basket's two external positions (`PositionBalances`). -/
structure Balances where
  /-- In the basket's wallet and in the market. -/
  collateral : Amount
  /-- The debt, rounded up. -/
  borrow : Amount
  borrowShares : Amount
deriving DecidableEq

/-! ## JSON forms -/

instance : JsonForm LeverState where
  encode s := Json.ofText s.name
  decode? v :=
    match Json.unitVariant? v with
    | some "Uninitialized" => some .uninitialized
    | some "Initialized" => some .initialized
    | some "Collateralized" => some .collateralized
    | some "Levered" => some .levered
    | _ => none

instance : JsonForm LeverReport where
  encode r := Json.record [
    ("borrowed", encode r.borrowed),
    ("received", encode r.received),
    ("protocol_fee", encode r.protocolFee),
    ("collateral_supplied", encode r.collateralSupplied),
    ("collateral_unit", encode r.collateralUnit),
    ("borrow_unit", encode r.borrowUnit)]
  decode? v := do
    let [borrowed, received, fee, supplied, collateralUnit, borrowUnit] ← Json.fields?
      ["borrowed", "received", "protocol_fee", "collateral_supplied", "collateral_unit",
        "borrow_unit"] v
      | none
    pure ⟨← Json.required borrowed, ← Json.required received, ← Json.required fee,
      ← Json.required supplied, ← Json.required collateralUnit, ← Json.required borrowUnit⟩

instance : JsonForm DeleverReport where
  encode r := Json.record [
    ("collateral_withdrawn", encode r.collateralWithdrawn),
    ("received", encode r.received),
    ("protocol_fee", encode r.protocolFee),
    ("repaid", encode r.repaid),
    ("collateral_unit", encode r.collateralUnit),
    ("borrow_unit", encode r.borrowUnit),
    ("fully_delevered", encode r.fullyDelevered)]
  decode? v := do
    let [withdrawn, received, fee, repaid, collateralUnit, borrowUnit, fully] ← Json.fields?
      ["collateral_withdrawn", "received", "protocol_fee", "repaid", "collateral_unit",
        "borrow_unit", "fully_delevered"] v
      | none
    pure ⟨← Json.required withdrawn, ← Json.required received, ← Json.required fee,
      ← Json.required repaid, ← Json.required collateralUnit, ← Json.required borrowUnit,
      ← Json.required fully⟩

instance : JsonForm SyncReport where
  encode r := Json.record [
    ("total_supply", encode r.supply),
    ("collateral_unit", encode r.collateralUnit),
    ("borrow_unit", encode r.borrowUnit),
    ("collateral_notional", encode r.collateralNotional),
    ("borrow_notional", encode r.borrowNotional)]
  decode? v := do
    let [supply, collateralUnit, borrowUnit, collateral, borrow] ← Json.fields?
      ["total_supply", "collateral_unit", "borrow_unit", "collateral_notional",
        "borrow_notional"] v
      | none
    pure ⟨← Json.required supply, ← Json.required collateralUnit, ← Json.required borrowUnit,
      ← Json.required collateral, ← Json.required borrow⟩

instance : JsonForm Balances where
  encode b := Json.record [
    ("collateral", encode b.collateral),
    ("borrow", encode b.borrow),
    ("borrow_shares", encode b.borrowShares)]
  decode? v := do
    let [collateral, borrow, shares] ← Json.fields? ["collateral", "borrow", "borrow_shares"] v
      | none
    pure ⟨← Json.required collateral, ← Json.required borrow, ← Json.required shares⟩

end LeveredBasket.Leverage
