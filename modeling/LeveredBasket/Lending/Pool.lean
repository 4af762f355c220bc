/-
The lending pool: all markets under one address, with one clock and one list of
prices, and the tokens they move.

A call first brings the market's interest up to date where its outcome depends
on it, then books what it does step by step. A call that is refused half way
keeps the steps it had booked: a borrowing that fails the health check, for
instance, leaves the debt in the books and the assets with the pool. It is the
caller who takes such a call back, by keeping the state from before.
-/
import LeveredBasket.Lending.Market
import LeveredBasket.Token

set_option autoImplicit false

namespace LeveredBasket.Lending

/-- **The lending pool** (`SimMarket`). -/
structure Pool where
  /-- Holds the deposits and the collateral of all markets. -/
  address : Address
  markets : FiniteMap MarketId Market
  /-- The price that each oracle quotes. -/
  prices : FiniteMap Address Amount
  /-- The clock, in seconds. -/
  now : Word 64
deriving DecidableEq

namespace Pool

/-- A pool without markets, at second zero. -/
def create (address : Address) : Pool := ⟨address, .empty, .empty, 0⟩

/-- The price at which the market's collateral counts; zero if its oracle quotes none. -/
def price (p : Pool) (params : MarketParams) : Amount := p.prices.getD params.oracle 0

def setPrice (p : Pool) (oracle : Address) (price : Amount) : Pool :=
  { p with prices := p.prices.insert oracle price }

/-- Opens a market, in place of any market of the same parameters (`SimMarket::create_market`). -/
def createMarket (p : Pool) (params : MarketParams) (rate : Amount) : Pool :=
  { p with markets := p.markets.insert params.id ⟨params, .opened p.now, .empty, rate⟩ }

/-- The account of a participant in a market; empty if there is no such market. -/
def account (p : Pool) (market : MarketId) (who : Address) : Account :=
  match p.markets.get? market with
  | some m => m.account who
  | none => .empty

def totals (p : Pool) (market : MarketId) : Except LendingError Totals :=
  match p.markets.get? market with
  | some m => .ok m.totals
  | none => .error (.marketNotCreated market)

/-- What a depositor can claim, rounded down (`SimMarket::supplied_assets`). -/
def suppliedAssets (p : Pool) (market : MarketId) (who : Address) :
    Except LendingError Amount := do
  let totals ← p.totals market
  (totals.claim (p.account market who).supplyShares).mapError .math

/-- Moves the clock, if it can be moved so far (`SimMarket::advance`). -/
def advance? (p : Pool) (seconds : Word 64) : Option Pool :=
  (p.now.add? seconds).map fun now => { p with now := now }

end Pool

/-- **A bank**: the tokens, and the pool that moves them. -/
structure Bank where
  tokens : TokenBook
  pool : Pool
deriving DecidableEq

namespace Bank

/-- A call on a bank. -/
abbrev Call (α : Type) := Action Bank LendingError α

/-! ## Steps of a call -/

/-- The result of a computation. -/
def compute {α : Type} (x : Except MathError α) : Call α := .ofExcept (x.mapError .math)

/-- The market of these parameters as it stands. -/
def market (params : MarketParams) : Call Market := do
  let found ← .read (·.pool.markets.get? params.id)
  .orRefuse (.marketNotCreated params.id) found

/-- Books a market as it now stands. -/
def book (params : MarketParams) (m : Market) : Call Unit :=
  .modify fun b => { b with pool := { b.pool with markets := b.pool.markets.insert params.id m } }

/-- Moves tokens. -/
def move (asset sender recipient : Address) (amount : Amount) : Call Unit :=
  TokenBook.transfer asset sender recipient amount
    |>.within tokens (fun b t => { b with tokens := t })
    |>.mapError fun e => .transfer e.message

/-! ## Interest -/

/-- Adds the interest since the last update to both totals (`SimMarket::accrue`). -/
def accrue (params : MarketParams) : Call Unit := do
  let m ← market params
  let now ← .read (·.pool.now)
  let elapsed := now.truncatedSub m.totals.lastUpdate
  if elapsed = 0 then pure ()
  else do
    let growth ← compute (MathError.overflowing (m.rate.mul? (elapsed.widen (by decide))))
    let interest ← compute (Amount.preciseMul m.totals.borrowAssets growth)
    let borrowAssets ← compute (m.totals.borrowAssets.add interest)
    let m := { m with totals := { m.totals with borrowAssets := borrowAssets } }
    -- the debts keep the interest even if the deposits have no room for it
    book params m
    let supplyAssets ← compute (m.totals.supplyAssets.add interest)
    book params
      { m with totals := { m.totals with supplyAssets := supplyAssets, lastUpdate := now } }

/-- Sets the rate from now on (`SimMarket::set_rate`). -/
def setRate (params : MarketParams) (rate : Amount) : Call Unit := do
  accrue params
  let m ← market params
  book params { m with rate := rate }

/-! ## Deposits and collateral -/

/-- Deposits the loan asset (`SimMarket::supply`). The value is the shares it buys. -/
def supply (params : MarketParams) (lender : Address) (assets : Amount) : Call Amount := do
  .require (assets ≠ 0) .zeroAmount
  accrue params
  let m ← market params
  let shares ← compute (Share.ofAssets .down assets m.totals.supplyAssets m.totals.supplyShares)
  let pool ← .read (·.pool.address)
  -- the assets are at the pool from here on, whether or not the rest can be booked
  move params.loanAsset lender pool assets
  let supplyAssets ← compute (m.totals.supplyAssets.add assets)
  let m := { m with totals := { m.totals with supplyAssets := supplyAssets } }
  book params m
  let supplyShares ← compute (m.totals.supplyShares.add shares)
  let m := { m with totals := { m.totals with supplyShares := supplyShares } }
  book params m
  let account := m.account lender
  let held ← compute (account.supplyShares.add shares)
  book params (m.setAccount lender { account with supplyShares := held })
  pure shares

/-- Deposits collateral (`SimMarket::supply_collateral`). -/
def supplyCollateral (params : MarketParams) (who : Address) (amount : Amount) : Call Unit := do
  .require (amount ≠ 0) .zeroAmount
  let m ← market params
  let pool ← .read (·.pool.address)
  move params.collateralAsset who pool amount
  let account := m.account who
  let collateral ← compute (account.collateral.add amount)
  book params (m.setAccount who { account with collateral := collateral })

/-- Takes collateral back, as far as the account stays healthy without it
(`SimMarket::withdraw_collateral`). -/
def withdrawCollateral (params : MarketParams) (who : Address) (amount : Amount)
    (receiver : Address) : Call Unit := do
  .require (amount ≠ 0) .zeroAmount
  accrue params
  let m ← market params
  let price ← .read (·.pool.price params)
  let account := m.account who
  .require (amount ≤ account.collateral) (.withdrawExceedsCollateral amount account.collateral)
  let m := m.setAccount who
    { account with collateral := account.collateral.truncatedSub amount }
  -- booked first, because what has to be healthy is the account without it
  book params m
  let healthy ← compute (m.isHealthy who price)
  .require (healthy = true) .insufficientCollateral
  let pool ← .read (·.pool.address)
  move params.collateralAsset pool receiver amount

/-! ## Debt -/

/-- Borrows the loan asset against the account's collateral (`SimMarket::borrow`). -/
def borrow (params : MarketParams) (who : Address) (assets : Amount) (receiver : Address) :
    Call Movement := do
  .require (assets ≠ 0) .zeroAmount
  accrue params
  let m ← market params
  let price ← .read (·.pool.price params)
  -- priced before the debt is added to the total, and against the account
  let shares ← compute (Share.ofAssets .up assets m.totals.borrowAssets m.totals.borrowShares)
  let borrowAssets ← compute (m.totals.borrowAssets.add assets)
  let m := { m with totals := { m.totals with borrowAssets := borrowAssets } }
  book params m
  let borrowShares ← compute (m.totals.borrowShares.add shares)
  let m := { m with totals := { m.totals with borrowShares := borrowShares } }
  book params m
  let account := m.account who
  let owed ← compute (account.borrowShares.add shares)
  let m := m.setAccount who { account with borrowShares := owed }
  book params m
  let healthy ← compute (m.isHealthy who price)
  .require (healthy = true) .insufficientCollateral
  -- the refusal tells what could have been borrowed, so the new debt is taken out again
  .require (m.totals.borrowAssets ≤ m.totals.supplyAssets)
    (.insufficientLiquidity assets
      (m.totals.supplyAssets.truncatedSub (m.totals.borrowAssets.truncatedSub assets)))
  let pool ← .read (·.pool.address)
  move params.loanAsset pool receiver assets
  pure ⟨assets, shares⟩

/-- Assets and shares of a repayment. -/
def movementOf (totals : Totals) : RepayAmount → Except MathError Movement
  | .assets assets => do
    pure ⟨assets, ← Share.ofAssets .down assets totals.borrowAssets totals.borrowShares⟩
  | .shares shares => do
    pure ⟨← Share.toAssets .up shares totals.borrowAssets totals.borrowShares, shares⟩

/-- Takes shares off the total. The assets may be a little more than are left, because the assets
of a repayment are rounded up; then nothing is left. -/
def settle (params : MarketParams) (m : Market) (moved : Movement) : Call Unit := do
  let borrowShares ← compute (m.totals.borrowShares.sub moved.shares)
  book params
    { m with
      totals :=
        { m.totals with
          borrowShares := borrowShares
          borrowAssets := m.totals.borrowAssets.truncatedSub moved.assets } }

/-- Repays debt of an account, with assets of the same holder (`SimMarket::repay`). -/
def repay (params : MarketParams) (who : Address) (amount : RepayAmount) : Call Movement := do
  accrue params
  let m ← market params
  let moved ← compute (movementOf m.totals amount)
  -- a few shares may be worth less than one asset, but never nothing once they are rounded up
  .require (moved.assets ≠ 0) .zeroAmount
  let account := m.account who
  .require (moved.shares ≤ account.borrowShares)
    (.repayExceedsDebt moved.shares account.borrowShares)
  let pool ← .read (·.pool.address)
  move params.loanAsset who pool moved.assets
  let m := m.setAccount who
    { account with borrowShares := account.borrowShares.truncatedSub moved.shares }
  book params m
  settle params m moved
  pure moved

/-- Takes collateral of an account that is not healthy against repaying a part of its debt
(`SimMarket::liquidate`). -/
def liquidate (params : MarketParams) (borrower : Address) (seized repaidShares : Amount)
    (liquidator : Address) : Call Movement := do
  accrue params
  let m ← market params
  let price ← .read (·.pool.price params)
  let healthy ← compute (m.isHealthy borrower price)
  .require (healthy = false) .insufficientCollateral
  -- how much is seized is up to the liquidator: no price ties it to what is repaid
  let moved ← compute (movementOf m.totals (.shares repaidShares))
  let account := m.account borrower
  .require (repaidShares ≤ account.borrowShares)
    (.repayExceedsDebt repaidShares account.borrowShares)
  .require (seized ≤ account.collateral) (.withdrawExceedsCollateral seized account.collateral)
  let pool ← .read (·.pool.address)
  move params.loanAsset liquidator pool moved.assets
  move params.collateralAsset pool liquidator seized
  let m := m.setAccount borrower
    { account with
      borrowShares := account.borrowShares.truncatedSub repaidShares
      collateral := account.collateral.truncatedSub seized }
  book params m
  settle params m moved
  pure moved

end Bank

end LeveredBasket.Lending
