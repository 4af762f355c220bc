/-
The trade inside a levering or delevering.

The quantities per basket token are first scaled by the supply: what is sent
rounds down and the least that must come back rounds up. What came back is
always measured on the basket's wallet. A protocol fee is then taken out of it,
unless the registry asks for more than the desk honours.
-/
import LeveredBasket.Leverage.Desk

set_option autoImplicit false

namespace LeveredBasket.Leverage

open Exchange (Adapter SwapOrder)

/-- **A trade to be made** (`ActionInfo`). -/
structure TradePlan where
  basket : Address
  adapterName : String
  adapter : Adapter
  sendAsset : Address
  receiveAsset : Address
  supply : Amount
  sendQuantity : Amount
  minReceive : Amount
  /-- What the basket has of the asset received before anything is done. -/
  balanceBefore : Amount

namespace Operation

/-- Plans a trade of the given size (`LeverageModule::action_info_notional`). -/
def plan (d : Desk) (basket send receive : Address) (sendQuantity minReceive : Amount)
    (adapterName : String) : Operation TradePlan := do
  .require (sendQuantity ≠ 0) .zeroQuantity
  let resolved ← .read (·.chain.registry.adapter d.address adapterName)
  let adapter ← .ofExcept (resolved.mapError .exchange)
  let supply ← supplyOf basket
  -- what is in the wallet already is not to count as received
  let balanceBefore ← walletOf basket receive
  pure ⟨basket, adapterName, adapter, send, receive, supply, sendQuantity, minReceive,
    balanceBefore⟩

/-- Plans a trade of the given size per basket token (`LeverageModule::action_info`). -/
def planPerToken (d : Desk) (basket send receive : Address) (sendUnits minReceiveUnits : Amount)
    (adapterName : String) : Operation TradePlan := do
  let supply ← supplyOf basket
  let sendQuantity ← compute (Amount.preciseMul sendUnits supply)
  let minReceive ← compute (Amount.preciseMulUp minReceiveUnits supply)
  plan d basket send receive sendQuantity minReceive adapterName

/-- Makes a trade (`LeverageModule::execute_trade`). The value is what arrived. -/
def trade (p : TradePlan) (route : Bytes) : Operation Amount := do
  let order : SwapOrder :=
    ⟨p.sendAsset, p.receiveAsset, p.basket, p.sendQuantity, p.minReceive, route⟩
  ledger (Chain.invokeApprove p.basket p.sendAsset p.adapter.spender p.sendQuantity)
  let call ← .ofExcept ((p.adapter.call order).mapError .exchange)
  exchange (Chain.invokeTrade p.basket call)
  let balanceAfter ← walletOf p.basket p.receiveAsset
  -- measured on the wallet, whatever the exchange says that it has paid
  let received := balanceAfter.truncatedSub p.balanceBefore
  .require (p.minReceive ≤ received) (.slippageTooHigh received p.minReceive)
  pure received

/-- Sends the protocol's share of what arrived to the fee recipient
(`LeverageModule::accrue_protocol_fee`). The value is that share. -/
def chargeFee (d : Desk) (basket asset : Address) (amount : Amount) : Operation Amount := do
  let rate ← .read (·.chain.registry.fee d.address d.settings.feeIndex)
  let cap := d.settings.maxFee
  .require (rate.value ≤ cap.value) (.protocolFeeTooHigh rate cap)
  let fee ← compute (rate.apply amount)
  if fee = 0 then pure fee
  else do
    let recipient ← .read (·.chain.registry.feeRecipient)
    ledger (Chain.invokeTransfer basket asset recipient fee)
    pure fee

end Operation

end LeveredBasket.Leverage
