/-
Why a leverage desk refuses an operation.

Each error belongs to one class, by which callers decide what to do next. Only
a trade that slipped too far is worth trying again, with other limits.
-/
import LeveredBasket.Exchange.Order
import LeveredBasket.Lending.Market

set_option autoImplicit false

namespace LeveredBasket.Leverage

open Exchange (ExchangeError)
open Lending (LendingError)

/-- What kind of reason an error is (`ErrorClass`). -/
inductive ErrorClass where
  | authorization
  | statePrecondition
  | slippage
  | invariant
  | external
deriving DecidableEq

def ErrorClass.name : ErrorClass → String
  | authorization => "Authorization"
  | statePrecondition => "StatePrecondition"
  | slippage => "Slippage"
  | invariant => "Invariant"
  | external => "External"

/-- **Why an operation was refused** (`LeverageError`). -/
inductive LeverageError where
  | notManager (caller basket : Address)
  | notOwner (caller : Address)
  | notInitializedModule (caller : Address)
  | moduleNotEnabled (caller : Address)
  | unregisteredIssuanceModule (caller basket : Address)
  | notBasket (caller basket : Address)
  | basketNotEnabled (basket : Address)
  | notPendingInitialization (basket : Address)
  | basketNotAllowed (basket : Address)
  | invalidBasket (basket : Address)
  | notInitialized (basket : Address)
  | alreadyInitialized (basket : Address)
  | invalidMarketParams (asset : Address)
  | invalidIssuanceModule (name : String)
  | issuanceNotInitialized (issuer : Address)
  | collateralAlreadyEntered (basket : Address)
  | collateralNotEntered (basket : Address)
  | noCollateralPosition (basket : Address)
  | zeroQuantity
  | protocolFeeTooHigh (fee cap : BasisPoints)
  | slippageTooHigh (received minimum : Amount)
  | debtComponentMismatch (component expected : Address)
  | debtUnitNotNegative (unit : PositionUnit)
  | borrowBalanceZero
  | borrowOutstanding (shares : Amount)
  | reentrancy (basket : Address)
  | lending (error : LendingError)
  | exchange (error : ExchangeError)
  | ledger (error : LedgerError)
  | math (error : MathError)
deriving DecidableEq

namespace LeverageError

def message : LeverageError → String
  | notManager caller basket => s!"Must be the basket manager: caller {caller}, basket {basket}"
  | notOwner caller => s!"Caller {caller} is not the module owner"
  | notInitializedModule caller => s!"Only the module can call: {caller}"
  | moduleNotEnabled caller => s!"Module must be enabled on controller: {caller}"
  | unregisteredIssuanceModule caller basket =>
    s!"Issuance module {caller} is not registered for basket {basket}"
  | notBasket caller basket => s!"Caller {caller} is not basket {basket}"
  | basketNotEnabled basket => s!"Must be controller-enabled basket: {basket}"
  | notPendingInitialization basket => s!"Must be pending initialization: {basket}"
  | basketNotAllowed basket => s!"Not allowed basket: {basket}"
  | invalidBasket basket => s!"Invalid basket: {basket}"
  | notInitialized basket => s!"Basket {basket} is not initialized on this module"
  | alreadyInitialized basket => s!"Basket {basket} already has a market"
  | invalidMarketParams asset => s!"Collateral and loan asset must differ: {asset}"
  | invalidIssuanceModule name => s!"Issuance module not registered: {name}"
  | issuanceNotInitialized issuer => s!"Issuance not initialized: {issuer}"
  | collateralAlreadyEntered basket => s!"Collateral position already entered for basket {basket}"
  | collateralNotEntered basket => s!"Collateral position not entered for basket {basket}"
  | noCollateralPosition basket => s!"No default collateral position for basket {basket}"
  | zeroQuantity => "Quantity is 0"
  | protocolFeeTooHigh fee cap => s!"Protocol fee {fee} above cap {cap}"
  | slippageTooHigh received minimum =>
    s!"Slippage too high: received {received}, minimum {minimum}"
  | debtComponentMismatch component expected =>
    s!"Debt component mismatch: got {component}, expected {expected}"
  | debtUnitNotNegative unit => s!"Component must be negative: unit {unit}"
  | borrowBalanceZero => "Borrow balance is zero"
  | borrowOutstanding shares => s!"Borrow balance must be 0: {shares} shares outstanding"
  | reentrancy basket => s!"Reentrant call on basket {basket}"
  | lending error => "Lending market error: " ++ error.message
  | exchange error => "Exchange error: " ++ error.message
  | ledger error => "Ledger error: " ++ error.message
  | math error => "Math error: " ++ error.message

/-- The name under which the error is reported: one of another part of the chain after the name of
that part. -/
def name : LeverageError → String
  | notManager .. => "NotManager"
  | notOwner .. => "NotOwner"
  | notInitializedModule .. => "NotInitializedModule"
  | moduleNotEnabled .. => "ModuleNotEnabled"
  | unregisteredIssuanceModule .. => "UnregisteredIssuanceModule"
  | notBasket .. => "NotBasket"
  | basketNotEnabled .. => "BasketNotEnabled"
  | notPendingInitialization .. => "NotPendingInitialization"
  | basketNotAllowed .. => "BasketNotAllowed"
  | invalidBasket .. => "InvalidBasket"
  | notInitialized .. => "NotInitialized"
  | alreadyInitialized .. => "AlreadyInitialized"
  | invalidMarketParams .. => "InvalidMarketParams"
  | invalidIssuanceModule .. => "InvalidIssuanceModule"
  | issuanceNotInitialized .. => "IssuanceNotInitialized"
  | collateralAlreadyEntered .. => "CollateralAlreadyEntered"
  | collateralNotEntered .. => "CollateralNotEntered"
  | noCollateralPosition .. => "NoCollateralPosition"
  | zeroQuantity => "ZeroQuantity"
  | protocolFeeTooHigh .. => "ProtocolFeeTooHigh"
  | slippageTooHigh .. => "SlippageTooHigh"
  | debtComponentMismatch .. => "DebtComponentMismatch"
  | debtUnitNotNegative .. => "DebtUnitNotNegative"
  | borrowBalanceZero => "BorrowBalanceZero"
  | borrowOutstanding .. => "BorrowOutstanding"
  | reentrancy .. => "Reentrancy"
  | lending error => "Lending/" ++ error.name
  | exchange error => "Exchange/" ++ error.name
  | ledger error => "Ledger/" ++ error.name
  | math error => "Math/" ++ error.name

/-- The class of an error (`LeverageError::class`): who called, what state it was called in, what a
trade brought, what must not be, or what another part of the chain said. -/
def errorClass : LeverageError → ErrorClass
  | notManager .. | notOwner .. | notInitializedModule .. | moduleNotEnabled ..
  | unregisteredIssuanceModule .. | notBasket .. => .authorization
  | basketNotEnabled .. | notPendingInitialization .. | basketNotAllowed .. | invalidBasket ..
  | notInitialized .. | alreadyInitialized .. | invalidMarketParams .. | invalidIssuanceModule ..
  | issuanceNotInitialized .. | collateralAlreadyEntered .. | collateralNotEntered ..
  | noCollateralPosition .. | zeroQuantity | protocolFeeTooHigh .. => .statePrecondition
  | slippageTooHigh .. => .slippage
  | debtComponentMismatch .. | debtUnitNotNegative .. | borrowBalanceZero | borrowOutstanding ..
  | reentrancy .. | math .. => .invariant
  | lending .. | exchange .. | ledger .. => .external

/-- Whether another try with other limits may go through (`LeverageError::is_retryable`). -/
def isRetryable (e : LeverageError) : Bool := e.errorClass = .slippage

end LeverageError

end LeveredBasket.Leverage
