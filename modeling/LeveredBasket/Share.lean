/-
Shares of a pool, and the assets they stand for.

A lending market books debts and deposits in shares of a common pool, so that
interest moves every account at once. Assets and shares are converted at the
ratio of the totals after a fixed virtual amount has been added to each: an
empty pool then has a price too, a million shares to the smallest asset unit,
and nobody can set that price by being first.

The rounding is chosen by the caller, who rounds against the account: debts up,
claims down.
-/
import LeveredBasket.FixedPoint

set_option autoImplicit false

namespace LeveredBasket

/-- The direction of a rounding (`shares::Rounding`). -/
inductive Rounding where
  | down
  | up
deriving DecidableEq

/-- `a * b / d`, rounded as asked. -/
def Rounding.mulDiv : Rounding → Amount → Amount → Amount → Except MathError Amount
  | .down => Amount.mulDivDown
  | .up => Amount.mulDivUp

namespace Share

/-- The shares that an empty pool counts as having. -/
def virtualShares : Amount := ⟨1_000_000, by decide⟩

/-- The assets that an empty pool counts as having. -/
def virtualAssets : Amount := 1

/-- The assets that `shares` stand for (`shares::shares_to_assets`). -/
def toAssets (rounding : Rounding) (shares totalAssets totalShares : Amount) :
    Except MathError Amount := do
  let assets ← totalAssets.add virtualAssets
  let pool ← totalShares.add virtualShares
  rounding.mulDiv shares assets pool

/-- The shares that stand for `assets` (`shares::assets_to_shares`). -/
def ofAssets (rounding : Rounding) (assets totalAssets totalShares : Amount) :
    Except MathError Amount := do
  let all ← totalAssets.add virtualAssets
  let pool ← totalShares.add virtualShares
  rounding.mulDiv assets pool all

end Share

end LeveredBasket
