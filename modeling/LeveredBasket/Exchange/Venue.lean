/-
A swap venue with a fixed rate for each pair of assets.

The venue pulls the asset sent on the strength of an allowance to its router,
and pays out of an inventory without limit: what it pays is minted. It does not
look at an order's minimum; who asked for the swap measures what arrived.
-/
import LeveredBasket.Exchange.Order
import LeveredBasket.Token

set_option autoImplicit false

namespace LeveredBasket.Exchange

/-- **A venue** (`dex::FixedRateVenue`). -/
structure Venue where
  router : Address
  /-- For a pair sent and received: how many units are received, for how many sent. -/
  rates : FiniteMap (Address × Address) (Amount × Amount)
deriving DecidableEq

namespace Venue

def create (router : Address) : Venue := ⟨router, .empty⟩

def setRate (v : Venue) (send receive : Address) (numerator denominator : Amount) : Venue :=
  { v with rates := v.rates.insert (send, receive) (numerator, denominator) }

/-- What a quantity sent is paid with, rounded down (`FixedRateVenue::quote`). -/
def quote (v : Venue) (send receive : Address) (quantity : Amount) : Except ExchangeError Amount :=
  match v.rates.get? (send, receive) with
  | none => .error (.executionFailed (.noRate send receive))
  | some rate =>
    (Amount.mulDivDown quantity rate.1 rate.2).mapError fun e => .executionFailed (.math e)

/-- Carries out a call for `caller` (`FixedRateVenue::swap`). The value is what is paid out. -/
def swap (v : Venue) (caller : Address) (call : TradeCall) :
    Action TokenBook ExchangeError Amount := do
  .require (call.target = v.router) (.executionFailed (.unknownTarget call.target))
  let order ← .orRefuse (.executionFailed .unreadableOrder) (SwapOrder.ofPayload? call.payload)
  let out ← .ofExcept (v.quote order.sendAsset order.receiveAsset order.sendQuantity)
  -- the caller pays, whoever the order names as the recipient
  TokenBook.transferFrom order.sendAsset v.router caller v.router order.sendQuantity
    |>.mapError fun e => .executionFailed (.ledger e)
  TokenBook.mint order.receiveAsset order.recipient out
    |>.mapError fun e => .executionFailed (.ledger e)
  pure out

end Venue

end LeveredBasket.Exchange
