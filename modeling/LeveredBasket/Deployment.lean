/-
A reference deployment: one basket of wrapped staked ether, levered in dollars.

The basket has one token of supply, which stands for one wstETH. The market
lends USDC against wstETH up to 86 parts in a hundred of its value, and has a
million USDC to lend. A wstETH is priced at 3000 USDC by the oracle, and the
venue swaps at that price both ways. The desk has been taken on by the basket
and permits it; the basket has yet to be enrolled.
-/
import LeveredBasket.Leverage.Adjust
import LeveredBasket.Leverage.Enrolment

set_option autoImplicit false

namespace LeveredBasket.Deployment

open Leverage (Desk LeverageError LeverReport DeleverReport World)
open Lending (Bank MarketParams)

/-! ## Addresses -/

def usdc : Address := .of 0x1

def wsteth : Address := .of 0x2

def oracle : Address := .of 0x3

def interestModel : Address := .of 0x4

def pool : Address := .of 0x100

def router : Address := .of 0x101

def feeRecipient : Address := .of 0x102

/-- The module that the desk is to baskets. -/
def holder : Address := .of 0x200

def orchestrator : Address := .of 0x201

def owner : Address := .of 0x300

def manager : Address := .of 0x301

def lender : Address := .of 0x302

def basket : Address := .of 0x400

/-! ## Quantities -/

/-- One USDC. -/
def oneUsdc : Nat := 1_000_000

/-- The price of a wstETH: 3000 USDC, from eighteen decimals to six, with 36 decimals. -/
def price : Amount := ⟨3_000 * 1_000_000_000_000_000_000_000_000, by decide⟩

def threshold : Amount := ⟨860_000_000_000_000_000, by decide⟩

def liquidity : Amount := ⟨1_000_000 * oneUsdc, by decide⟩

def params : MarketParams := ⟨usdc, wsteth, oracle, interestModel, threshold⟩

/-- The name of the adapter for the venue. -/
def adapterName : String := "FixedRateSwap"

/-- One wstETH for each basket token. -/
def oneUnit : PositionUnit := ⟨⟨1_000_000_000_000_000_000, by decide, by decide⟩⟩

/-! ## Setting up -/

/-- The world before anything is set up. -/
def start (settings : Settings) : World :=
  ⟨.create pool router feeRecipient, .create holder owner settings⟩

/-- What can be set up without anyone's consent. -/
def furnish (c : Chain) : Chain :=
  let rate : Amount := ⟨1_000_000_000_000, by decide⟩
  { c with
    tokens :=
      (c.tokens.register usdc ⟨6, by decide⟩).register wsteth Token.usualDecimals
    pool := (c.pool.createMarket params 0).setPrice oracle price
    venue :=
      (c.venue.setRate usdc wsteth rate ⟨3_000, by decide⟩).setRate wsteth usdc
        ⟨3_000, by decide⟩ rate
    registry :=
      (((c.registry.addModule holder).addModule orchestrator).setIntegration holder
        Settings.usualIssuanceName orchestrator).setAdapter holder adapterName (.fixedRate router) }

/-- A call on tokens and baskets. -/
def ledger {α : Type} (x : Chain.Call α) : Action World LeverageError α :=
  (World.onChain x).mapError .ledger

/-- Sets everything up (`Deployment::with_config`). -/
def setUp : Action World LeverageError Unit := do
  .modify fun w => { w with chain := furnish w.chain }
  ledger (Chain.onTokens (TokenBook.mint usdc lender liquidity))
  let _ ← (World.onChain (Chain.onBank (Bank.supply params lender liquidity))).mapError .lending
  ledger (Chain.createBasket basket manager Amount.one [(wsteth, oneUnit)])
  ledger (Chain.addModule basket orchestrator)
  ledger (Chain.confirmModule basket orchestrator)
  ledger (Chain.addModule basket holder)
  World.setAllowed owner basket true

/-! ## Stages -/

/-- The basket is enrolled. -/
def enrol : Action World LeverageError Unit := World.enrol manager basket params

/-- The collateral is moved into the market. -/
def enter : Action World LeverageError Unit := do
  let _ ← World.enter manager basket

/-- The basket is levered through the venue. -/
def lever (borrowUnits minReceiveUnits : Amount) : Action World LeverageError LeverReport :=
  World.lever manager basket borrowUnits minReceiveUnits adapterName []

/-- The basket is delevered through the venue. -/
def delever (redeemUnits minRepayUnits : Amount) : Action World LeverageError DeleverReport :=
  World.delever manager basket redeemUnits minRepayUnits adapterName []

/-- The basket is delevered through the venue until it owes nothing. -/
def deleverToZero (redeemUnits : Amount) : Action World LeverageError DeleverReport :=
  World.deleverToZero manager basket redeemUnits adapterName []

/-- A thousand USDC. -/
def thousandUsdc : Amount := ⟨1_000 * oneUsdc, by decide⟩

/-- Everything set up, and the basket enrolled (`Deployment::wsteth_usdc`). -/
def enrolled : Action World LeverageError Unit := do
  setUp
  enrol

/-- Everything set up, and the collateral in the market (`Deployment::entered`). -/
def entered : Action World LeverageError Unit := do
  enrolled
  enter

/-- Everything set up, and the basket levered by a thousand USDC per token
(`Deployment::levered`). -/
def levered : Action World LeverageError Unit := do
  entered
  let _ ← lever thousandUsdc 0

end LeveredBasket.Deployment
