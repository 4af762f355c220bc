/-
What can be asked of a world, and what runs of requests come to.

A request goes to the chain or to the desk. Requests to the chain are calls on
tokens, the lending pool, the venue, the registry and the baskets; there is one
for everything that anybody can do there. A refused request leaves what it had
changed by then, and an aborted one ends the run. A world is reachable if some
list of requests comes to it from a chain with nothing on it.

Other desks on the same chain need no requests of their own, because what a desk
does to the chain is itself a list of requests to the chain.

A property of all runs is proved once for each request (`World.runs_induction`).
-/
import LeveredBasket.Leverage.Adjust
import LeveredBasket.Leverage.Enrolment
import LeveredBasket.Leverage.Issuance
import LeveredBasket.Proofs.Outcome

set_option autoImplicit false

namespace LeveredBasket

open Exchange (Adapter ExchangeError TradeCall)

/-! ## Requests to the chain -/

/-- **A request about tokens.** -/
inductive TokenRequest where
  | register (asset : Address) (decimals : Word 32)
  | mint (asset holder : Address) (amount : Amount)
  | burn (asset holder : Address) (amount : Amount)
  | transfer (asset sender recipient : Address) (amount : Amount)
  | approve (asset owner spender : Address) (amount : Amount)
  | transferFrom (asset spender owner recipient : Address) (amount : Amount)

def TokenRequest.perform : TokenRequest → TokenBook.Call Unit
  | register asset decimals => .modify (·.register asset decimals)
  | mint asset holder amount => TokenBook.mint asset holder amount
  | burn asset holder amount => TokenBook.burn asset holder amount
  | transfer asset sender recipient amount => TokenBook.transfer asset sender recipient amount
  | approve asset owner spender amount => .modify (·.approve asset owner spender amount)
  | transferFrom asset spender owner recipient amount =>
    TokenBook.transferFrom asset spender owner recipient amount

namespace Lending

/-- **A request to the lending pool.** -/
inductive PoolRequest where
  | createMarket (params : MarketParams) (rate : Amount)
  | setRate (params : MarketParams) (rate : Amount)
  | setPrice (oracle : Address) (price : Amount)
  | advance (seconds : Word 64)
  | accrue (params : MarketParams)
  | supply (params : MarketParams) (lender : Address) (assets : Amount)
  | supplyCollateral (params : MarketParams) (who : Address) (amount : Amount)
  | withdrawCollateral (params : MarketParams) (who : Address) (amount : Amount)
      (receiver : Address)
  | borrow (params : MarketParams) (who : Address) (assets : Amount) (receiver : Address)
  | repay (params : MarketParams) (who : Address) (amount : RepayAmount)
  | liquidate (params : MarketParams) (borrower : Address) (seized repaidShares : Amount)
      (liquidator : Address)

namespace PoolRequest

def perform : PoolRequest → Bank.Call Unit
  | createMarket params rate =>
    .modify fun b => { b with pool := b.pool.createMarket params rate }
  | setRate params rate => Bank.setRate params rate
  | setPrice oracle price => .modify fun b => { b with pool := b.pool.setPrice oracle price }
  | advance seconds => do
    let later ← .read (·.pool.advance? seconds)
    let pool ← .orAbort later
    .modify fun b => { b with pool := pool }
  | accrue params => Bank.accrue params
  | supply params lender assets => do let _ ← Bank.supply params lender assets
  | supplyCollateral params who amount => Bank.supplyCollateral params who amount
  | withdrawCollateral params who amount receiver =>
    Bank.withdrawCollateral params who amount receiver
  | borrow params who assets receiver => do let _ ← Bank.borrow params who assets receiver
  | repay params who amount => do let _ ← Bank.repay params who amount
  | liquidate params borrower seized repaidShares liquidator => do
    let _ ← Bank.liquidate params borrower seized repaidShares liquidator

/-- The market that a request names. -/
def market? : PoolRequest → Option MarketParams
  | createMarket params _ | setRate params _ | accrue params | supply params _ _
  | supplyCollateral params _ _ | withdrawCollateral params _ _ _ | borrow params _ _ _
  | repay params _ _ | liquidate params _ _ _ _ => some params
  | setPrice .. | advance _ => none

/-- Whose account a request writes. -/
def account? : PoolRequest → Option Address
  | supply _ lender _ => some lender
  | supplyCollateral _ who _ | withdrawCollateral _ who _ _ | borrow _ who _ _ | repay _ who _ =>
    some who
  | liquidate _ borrower _ _ _ => some borrower
  | createMarket .. | setRate .. | setPrice .. | advance _ | accrue _ => none

/-- Whose tokens a request moves into the pool. -/
def payer? : PoolRequest → Option Address
  | supply _ lender _ => some lender
  | supplyCollateral _ who _ => some who
  | repay _ who _ => some who
  | liquidate _ _ _ _ liquidator => some liquidator
  | createMarket .. | setRate .. | setPrice .. | advance _ | accrue _ | withdrawCollateral ..
  | borrow .. => none

end PoolRequest

end Lending

open Lending (MarketParams PoolRequest)

/-- **A request to the venue.** -/
inductive VenueRequest where
  | setRate (send receive : Address) (numerator denominator : Amount)
  | swap (caller : Address) (call : TradeCall)

def VenueRequest.perform : VenueRequest → Action Chain ExchangeError Unit
  | setRate send receive numerator denominator => .modify fun c =>
    { c with venue := c.venue.setRate send receive numerator denominator }
  | swap caller call => do
    let venue ← .read (·.venue)
    let _ ← Chain.onTokens (venue.swap caller call)

/-- **A request to the registry.** -/
inductive RegistryRequest where
  | addModule (address : Address)
  | removeModule (address : Address)
  | addBasket (basket : Address)
  | setFee (address : Address) (index : Word 64) (fee : BasisPoints)
  | setIntegration (address : Address) (name : String) (target : Address)
  | setAdapter (address : Address) (name : String) (adapter : Adapter)

def RegistryRequest.apply (r : Registry) : RegistryRequest → Registry
  | addModule address => r.addModule address
  | removeModule address => r.removeModule address
  | addBasket basket => r.addBasket basket
  | setFee address index fee => r.setFee address index fee
  | setIntegration address name target => r.setIntegration address name target
  | setAdapter address name adapter => r.setAdapter address name adapter

/-- **What may be asked of or about a basket.** -/
inductive BasketRequest where
  | create (manager : Address) (supply : Amount) (components : List (Address × PositionUnit))
  | addModule (holder : Address)
  | detachModule (holder : Address)
  | confirmModule (holder : Address)
  | setSupply (supply : Amount)
  | editDefault (component : Address) (unit : PositionUnit)
  | editExternal (component holder : Address) (unit : PositionUnit)
  | writeDefault (component : Address) (unit : PositionUnit)
  | writeExternal (component holder : Address) (unit : PositionUnit)
  | transfer (asset recipient : Address) (amount : Amount)
  | approve (asset spender : Address) (amount : Amount)
  | registerHook (orchestrator hook : Address)
  | unregisterHook (orchestrator hook : Address)

def BasketRequest.perform (basket : Address) : BasketRequest → Chain.Call Unit
  | create manager supply components => Chain.createBasket basket manager supply components
  | addModule holder => Chain.addModule basket holder
  | detachModule holder => Chain.detachModule basket holder
  | confirmModule holder => Chain.confirmModule basket holder
  | setSupply supply => .modify (·.setSupply basket supply)
  | editDefault component unit => Chain.editPosition basket (.ofDefault component unit)
  | editExternal component holder unit =>
    Chain.editPosition basket (.ofExternal component holder unit)
  | writeDefault component unit => do
    let _ ← Chain.writePosition basket (.ofDefault component unit)
  | writeExternal component holder unit => do
    let _ ← Chain.writePosition basket (.ofExternal component holder unit)
  | transfer asset recipient amount => Chain.invokeTransfer basket asset recipient amount
  | approve asset spender amount => Chain.invokeApprove basket asset spender amount
  | registerHook orchestrator hook => Chain.registerHook orchestrator basket hook
  | unregisterHook orchestrator hook => Chain.unregisterHook orchestrator basket hook

/-- **A request to the chain.** -/
inductive ChainRequest where
  | token (request : TokenRequest)
  | pool (request : PoolRequest)
  | venue (request : VenueRequest)
  | registry (request : RegistryRequest)
  | basket (address : Address) (request : BasketRequest)
  /-- The basket makes a call on the venue. -/
  | trade (address : Address) (call : TradeCall)

namespace ChainRequest

/-- The chain after a request, unless that ends the run. -/
def after (c : Chain) : ChainRequest → Option Chain
  | token request => (Chain.onTokens request.perform).after c
  | pool request => (Chain.onBank request.perform).after c
  | venue request => request.perform.after c
  | registry request => some { c with registry := request.apply c.registry }
  | basket address request => (request.perform address).after c
  | trade address call => (Chain.invokeTrade address call).after c

/-- The chain after a request that goes through. -/
def through (c : Chain) : ChainRequest → Option Chain
  | token request => (Chain.onTokens request.perform).through c
  | pool request => (Chain.onBank request.perform).through c
  | venue request => request.perform.through c
  | registry request => some { c with registry := request.apply c.registry }
  | basket address request => (request.perform address).through c
  | trade address call => (Chain.invokeTrade address call).through c

/-- What goes through leaves what any request would leave. -/
theorem after_of_through {c c' : Chain} {r : ChainRequest} (h : r.through c = some c') :
    r.after c = some c' := by
  cases r with
  | registry q => exact h
  | token q | pool q | venue q | basket address q | trade address call =>
    exact Action.after_of_through h

/-- The market that a request names. -/
def market? : ChainRequest → Option MarketParams
  | pool request => request.market?
  | _ => none

/-- Whose tokens a request moves or destroys. -/
def payer? : ChainRequest → Option Address
  | token (.burn _ holder _) => some holder
  | token (.transfer _ sender _ _) => some sender
  | token (.transferFrom _ _ owner _ _) => some owner
  | token _ => none
  | pool request => request.payer?
  | venue (.swap caller _) => some caller
  | venue _ => none
  | registry _ => none
  | basket address (.transfer ..) => some address
  | basket _ _ => none
  | trade address _ => some address

end ChainRequest

namespace Leverage

/-! ## Requests to the desk -/

/-- **What may be asked of a desk about one basket.** -/
inductive BasketOperation where
  | setAllowed (caller : Address) (allowed : Bool)
  | enrol (caller : Address) (params : MarketParams)
  | registerIssuer (caller issuer : Address)
  | letGo (caller : Address)
  | enter (caller : Address)
  | lever (caller : Address) (borrowUnits minReceiveUnits : Amount) (adapterName : String)
      (route : Bytes)
  | delever (caller : Address) (redeemUnits minRepayUnits : Amount) (adapterName : String)
      (route : Bytes)
  | deleverToZero (caller : Address) (redeemUnits : Amount) (adapterName : String) (route : Bytes)
  | sync
  | moduleHook (caller : Address)
  | issueHook (caller : Address) (quantity : Amount) (component : Address) (isEquity : Bool)
  | redeemHook (caller : Address) (quantity : Amount) (component : Address) (isEquity : Bool)

/-- **A request to a desk.** -/
inductive DeskRequest where
  | setTime (time : Instant)
  | advanceTime (delay : IntWord 64)
  | setAnyAllowed (caller : Address) (anyAllowed : Bool)
  | basket (address : Address) (operation : BasketOperation)

def BasketOperation.perform (basket : Address) :
    BasketOperation → Action World LeverageError Unit
  | setAllowed caller allowed => World.setAllowed caller basket allowed
  | enrol caller params => World.enrol caller basket params
  | registerIssuer caller issuer => World.registerIssuer caller basket issuer
  | letGo caller => do let _ ← World.letGo caller basket
  | enter caller => do let _ ← World.enter caller basket
  | lever caller borrowUnits minReceiveUnits adapterName route => do
    let _ ← World.lever caller basket borrowUnits minReceiveUnits adapterName route
  | delever caller redeemUnits minRepayUnits adapterName route => do
    let _ ← World.delever caller basket redeemUnits minRepayUnits adapterName route
  | deleverToZero caller redeemUnits adapterName route => do
    let _ ← World.deleverToZero caller basket redeemUnits adapterName route
  | sync => do let _ ← World.sync basket
  | moduleHook caller => do let _ ← World.moduleHook caller basket
  | issueHook caller quantity component isEquity => do
    let _ ← World.issueHook caller basket quantity component isEquity
  | redeemHook caller quantity component isEquity => do
    let _ ← World.redeemHook caller basket quantity component isEquity

def DeskRequest.perform : DeskRequest → Action World LeverageError Unit
  | setTime time => do let _ ← World.setTime time
  | advanceTime delay => do let _ ← World.advanceTime delay
  | setAnyAllowed caller anyAllowed => World.setAnyAllowed caller anyAllowed
  | basket address operation => operation.perform address

/-! ## Runs -/

/-- **A request to a world.** -/
inductive Request where
  | chain (request : ChainRequest)
  | desk (request : DeskRequest)

namespace Request

/-- The world after a request, unless that ends the run. -/
def after (w : World) : Request → Option World
  | chain request => (request.after w.chain).map fun c => { w with chain := c }
  | desk request => request.perform.after w

/-- The market that a request names. -/
def market? : Request → Option MarketParams
  | chain request => request.market?
  | desk (.basket _ (.enrol _ params)) => some params
  | desk _ => none

/-- Whose tokens a request moves or destroys: a desk only ever moves a basket's. -/
def payer? : Request → Option Address
  | chain request => request.payer?
  | desk (.basket address _) => some address
  | desk _ => none

end Request

namespace World

/-- A chain with nothing on it, and a desk that has done nothing. -/
def blank (pool router feeRecipient holder owner : Address) (settings : Settings) : World :=
  ⟨.create pool router feeRecipient, .create holder owner settings⟩

/-- The world after one request after another, unless one of them ends the run. -/
def runs : List Request → World → Option World
  | [], w => some w
  | r :: rest, w => r.after w >>= runs rest

/-- **The world can come about**: some requests lead to it from a blank one. -/
def Reachable (w : World) : Prop :=
  ∃ pool router feeRecipient holder owner settings requests,
    runs requests (blank pool router feeRecipient holder owner settings) = some w

/-- **Runs.** What each request keeps, the run keeps. -/
theorem runs_induction {I : World → Prop} {requests : List Request} {w w' : World} (hw : I w)
    (hstep : ∀ r ∈ requests, ∀ v v', I v → r.after v = some v' → I v')
    (h : runs requests w = some w') : I w' := by
  induction requests generalizing w with
  | nil =>
    obtain rfl : w = w' := Option.some.inj h
    exact hw
  | cons r rest ih =>
    obtain ⟨v, hv, hrest⟩ := Option.bind_eq_some_iff.1 h
    have hIv : I v := hstep r List.mem_cons_self w v hw hv
    exact ih hIv (fun q hq => hstep q (List.mem_cons_of_mem r hq)) hrest

end World

end Leverage

end LeveredBasket
