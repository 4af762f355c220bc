/-
Isolated lending markets.

A market lends one asset against one other. It is fixed by its parameters, and
named by a hash of them. What it keeps is totals, one account for each
participant, and a rate; deposits and debts are counted in shares of the
totals, collateral in the asset itself.

A debt is what its shares stand for, rounded up. An account is healthy if the
value of its collateral, cut by the liquidation threshold, covers the debt.
-/
import LeveredBasket.Bytes
import LeveredBasket.Json.Form
import LeveredBasket.Sha256
import LeveredBasket.Share

set_option autoImplicit false

namespace LeveredBasket.Lending

/-! ## Parameters and names -/

/-- **What fixes a market** (`lending::MarketParams`). -/
structure MarketParams where
  loanAsset : Address
  collateralAsset : Address
  oracle : Address
  interestModel : Address
  /-- The part of the collateral's value that may be owed, with eighteen decimals. -/
  threshold : Amount
deriving DecidableEq

/-- **The name of a market** (`lending::MarketId`). -/
@[ext]
structure MarketId where
  value : Word 256
deriving DecidableEq

namespace MarketId

instance : Key MarketId := Key.ofNat (fun i => i.value.toNat) fun h => MarketId.ext (Word.ext h)

def text (i : MarketId) : String := hexText 64 i.value.toNat

instance : ToString MarketId := ⟨text⟩

def bytes (i : MarketId) : Bytes := Bytes.bigEndian 32 i.value.toNat

end MarketId

namespace MarketParams

/-- The parameters as 48 bytes, each in a fixed width. -/
def bytes (p : MarketParams) : Bytes :=
  Bytes.bigEndian 8 p.loanAsset.value.toNat ++ Bytes.bigEndian 8 p.collateralAsset.value.toNat ++
    Bytes.bigEndian 8 p.oracle.value.toNat ++ Bytes.bigEndian 8 p.interestModel.value.toNat ++
    Bytes.bigEndian 16 p.threshold.toNat

/-- The market's name: the hash of its parameters (`MarketParams::id`). -/
def id (p : MarketParams) : MarketId := ⟨Sha256.digest p.bytes⟩

end MarketParams

/-! ## Books -/

/-- **The totals of a market** (`lending::MarketState`). -/
structure Totals where
  supplyAssets : Amount
  supplyShares : Amount
  borrowAssets : Amount
  borrowShares : Amount
  /-- The second up to which interest is in the totals. -/
  lastUpdate : Word 64
  /-- The part of the interest that the market keeps, with eighteen decimals. -/
  fee : Amount
deriving DecidableEq

namespace Totals

/-- The totals of a market nobody has used, opened at second `now`. -/
def opened (now : Word 64) : Totals := ⟨0, 0, 0, 0, now, 0⟩

/-- The debt of so many borrow shares, rounded against the borrower
(`MarketState::borrow_assets`). -/
def debt (t : Totals) (shares : Amount) : Except MathError Amount :=
  Share.toAssets .up shares t.borrowAssets t.borrowShares

/-- What a depositor of so many supply shares can claim, rounded against the depositor. -/
def claim (t : Totals) (shares : Amount) : Except MathError Amount :=
  Share.toAssets .down shares t.supplyAssets t.supplyShares

end Totals

/-- **One participant's account** (`lending::LendingPosition`). -/
structure Account where
  supplyShares : Amount
  borrowShares : Amount
  collateral : Amount
deriving DecidableEq

/-- The account of one who has never taken part. -/
def Account.empty : Account := ⟨0, 0, 0⟩

/-- **A market** (`MarketEntry`). -/
structure Market where
  params : MarketParams
  totals : Totals
  accounts : FiniteMap Address Account
  /-- Interest for each second, with eighteen decimals. -/
  rate : Amount
deriving DecidableEq

namespace Market

def account (m : Market) (who : Address) : Account := m.accounts.getD who .empty

def setAccount (m : Market) (who : Address) (a : Account) : Market :=
  { m with accounts := m.accounts.insert who a }

/-- Prices are for one unit of collateral in units of the loan asset, with 36 decimals. -/
def priceScale : Amount := ⟨1_000_000_000_000_000_000_000_000_000_000_000_000, by decide⟩

/-- What may be owed against so much collateral at the given price. -/
def borrowLimit (m : Market) (collateral price : Amount) : Except MathError Amount := do
  let value ← Amount.mulDivDown collateral price priceScale
  Amount.preciseMul value m.params.threshold

/-- Whether the account's collateral covers its debt (`SimMarket::is_healthy`). Without a debt
nothing is computed. -/
def isHealthy (m : Market) (who : Address) (price : Amount) : Except MathError Bool :=
  let account := m.account who
  if account.borrowShares = 0 then .ok true
  else do
    let debt ← m.totals.debt account.borrowShares
    let limit ← m.borrowLimit account.collateral price
    pure (debt ≤ limit)

end Market

/-! ## Calls -/

/-- How much to repay: so many assets, or the debt of exactly so many shares
(`lending::RepayAmount`). -/
inductive RepayAmount where
  | assets (amount : Amount)
  | shares (amount : Amount)
deriving DecidableEq

/-- Assets and shares that a borrowing or a repayment moved (`lending::Movement`). -/
structure Movement where
  assets : Amount
  shares : Amount
deriving DecidableEq

/-- **Why a market refused a call** (`lending::LendingError`). -/
inductive LendingError where
  | marketNotCreated (market : MarketId)
  | insufficientCollateral
  | insufficientLiquidity (requested available : Amount)
  | withdrawExceedsCollateral (requested deposited : Amount)
  | repayExceedsDebt (requested owed : Amount)
  | transfer (reason : String)
  | zeroAmount
  | math (error : MathError)
deriving DecidableEq

def LendingError.message : LendingError → String
  | marketNotCreated market => s!"Market {market} not created"
  | insufficientCollateral => "Insufficient collateral for borrow position"
  | insufficientLiquidity requested available =>
    s!"Insufficient market liquidity: requested {requested}, available {available}"
  | withdrawExceedsCollateral requested deposited =>
    s!"Withdraw exceeds collateral: requested {requested}, deposited {deposited}"
  | repayExceedsDebt requested owed =>
    s!"Repay exceeds borrow shares: requested {requested}, owed {owed}"
  | transfer reason => s!"Token transfer failed: {reason}"
  | zeroAmount => "Zero amount"
  | math error => s!"Math error: {error}"

/-- The name under which the error is reported: a wrapped one after a slash. -/
def LendingError.name : LendingError → String
  | marketNotCreated .. => "MarketNotCreated"
  | insufficientCollateral => "InsufficientCollateral"
  | insufficientLiquidity .. => "InsufficientLiquidity"
  | withdrawExceedsCollateral .. => "WithdrawExceedsCollateral"
  | repayExceedsDebt .. => "RepayExceedsDebt"
  | transfer .. => "Transfer"
  | zeroAmount => "ZeroAmount"
  | math error => "Math/" ++ error.name

/-! ## JSON forms -/

open JsonForm (encode decode?)

instance : JsonForm MarketParams where
  encode p := Json.record [
    ("loan_asset", encode p.loanAsset),
    ("collateral_asset", encode p.collateralAsset),
    ("oracle", encode p.oracle),
    ("interest_rate_model", encode p.interestModel),
    ("liquidation_threshold", encode p.threshold)]
  decode? v := do
    let [loan, collateral, oracle, model, threshold] ← Json.fields?
      ["loan_asset", "collateral_asset", "oracle", "interest_rate_model", "liquidation_threshold"] v
      | none
    pure ⟨← Json.required loan, ← Json.required collateral, ← Json.required oracle,
      ← Json.required model, ← Json.required threshold⟩

/-- A market's name is written as its 32 bytes. -/
instance : JsonForm MarketId where
  encode i := encode i.bytes
  decode? v := do
    let bytes : Bytes ← decode? v
    if bytes.length = 32 then (Word.ofNat? 256 bytes.toNumber).map MarketId.mk else none

instance : JsonForm Account where
  encode a := Json.record [
    ("supply_shares", encode a.supplyShares),
    ("borrow_shares", encode a.borrowShares),
    ("collateral", encode a.collateral)]
  decode? v := do
    let [supply, borrow, collateral] ← Json.fields?
      ["supply_shares", "borrow_shares", "collateral"] v
      | none
    pure ⟨← Json.required supply, ← Json.required borrow, ← Json.required collateral⟩

instance : JsonForm Totals where
  encode t := Json.record [
    ("total_supply_assets", encode t.supplyAssets),
    ("total_supply_shares", encode t.supplyShares),
    ("total_borrow_assets", encode t.borrowAssets),
    ("total_borrow_shares", encode t.borrowShares),
    ("last_update", encode t.lastUpdate),
    ("fee", encode t.fee)]
  decode? v := do
    let [supplyAssets, supplyShares, borrowAssets, borrowShares, lastUpdate, fee] ← Json.fields?
      ["total_supply_assets", "total_supply_shares", "total_borrow_assets", "total_borrow_shares",
        "last_update", "fee"] v
      | none
    pure ⟨← Json.required supplyAssets, ← Json.required supplyShares, ← Json.required borrowAssets,
      ← Json.required borrowShares, ← Json.required lastUpdate, ← Json.required fee⟩

instance : JsonForm RepayAmount where
  encode
    | .assets amount => Json.variant "Assets" (encode amount)
    | .shares amount => Json.variant "Shares" (encode amount)
  decode? v :=
    match Json.variant? v with
    | some ("Assets", content) => (decode? content).map .assets
    | some ("Shares", content) => (decode? content).map .shares
    | _ => none

instance : JsonForm Movement where
  encode m := Json.record [("assets", encode m.assets), ("shares", encode m.shares)]
  decode? v := do
    let [assets, shares] ← Json.fields? ["assets", "shares"] v | none
    pure ⟨← Json.required assets, ← Json.required shares⟩

end LeveredBasket.Lending
