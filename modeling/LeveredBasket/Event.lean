/-
Events, and the log that keeps the latest of them.

Every operation that goes through says what it did in one or more events. The
log numbers them from one on without a gap, stamps them with the time of the
operation, and forgets the oldest once it is over its limit.
-/
import LeveredBasket.Lending.Market

set_option autoImplicit false

namespace LeveredBasket

open Lending (MarketId MarketParams)

/-- A trade that moved a basket's leverage (`events::LeverageChangedEvent`). -/
structure LeverageChange where
  basket : Address
  sendAsset : Address
  receiveAsset : Address
  adapter : String
  totalSend : Amount
  totalReceive : Amount
  protocolFee : Amount
deriving DecidableEq

/-- Debt taken up or repaid for tokens issued or redeemed (`events::HookEvent`). -/
structure HookMovement where
  basket : Address
  component : Address
  basketQuantity : Amount
  notional : Amount
deriving DecidableEq

/-- **What happened** (`events::EventPayload`). -/
inductive EventPayload where
  | moduleInitialized (basket : Address) (market : MarketId) (params : MarketParams)
      (issuer : Address)
  | allowListUpdated (basket : Address) (allowed : Bool)
  | anyBasketAllowedUpdated (anyAllowed : Bool)
  | issuanceModuleRegistered (basket issuer : Address)
  | moduleRemoved (basket : Address) (withdrawn : Amount)
  | collateralEntered (basket collateral : Address) (supplied : Amount) (unit : PositionUnit)
  | leverageIncreased (change : LeverageChange)
  | leverageDecreased (change : LeverageChange)
  | fullyDelevered (basket loan : Address) (residual : Amount)
  | positionsSynced (basket : Address) (collateralUnit borrowUnit : PositionUnit)
      (supply : Amount)
  | issueHookBorrowed (movement : HookMovement)
  | redeemHookRepaid (movement : HookMovement)
deriving DecidableEq

/-- **An event** (`events::Event`): what happened, with a number and a time. -/
structure Event where
  id : Word 64
  time : Instant
  payload : EventPayload
deriving DecidableEq

/-! ## The log -/

/-- **The event log.** -/
structure EventLog where
  /-- The latest events, the oldest first. -/
  events : List Event
  /-- The number of the next event. -/
  nextId : Word 64
deriving DecidableEq

namespace EventLog

def empty : EventLog := ⟨[], 1⟩

/-- Puts an event at the end, as long as events can be numbered. -/
def push? (l : EventLog) (time : Instant) (payload : EventPayload) : Option EventLog :=
  l.nextId.succ?.map fun next => ⟨l.events ++ [⟨l.nextId, time, payload⟩], next⟩

/-- The last `count` events (`LeverageModule::recent_events`). -/
def recent (l : EventLog) (count : Nat) : List Event := l.events.drop (l.events.length - count)

/-- Puts events at the end, then keeps the last `limit` of all (`LeverageModule::flush_events`). -/
def append? (l : EventLog) (limit : Nat) (time : Instant) (payloads : List EventPayload) :
    Option EventLog :=
  (payloads.foldlM (fun (l : EventLog) p => l.push? time p) l).map fun l =>
    { l with events := l.recent limit }

end EventLog

/-! ## JSON forms -/

open JsonForm (encode decode?)

instance : JsonForm LeverageChange where
  encode c := Json.record [
    ("basket", encode c.basket),
    ("send_asset", encode c.sendAsset),
    ("receive_asset", encode c.receiveAsset),
    ("adapter", encode c.adapter),
    ("total_send", encode c.totalSend),
    ("total_receive", encode c.totalReceive),
    ("protocol_fee", encode c.protocolFee)]
  decode? v := do
    let [basket, send, receive, adapter, totalSend, totalReceive, fee] ← Json.fields?
      ["basket", "send_asset", "receive_asset", "adapter", "total_send", "total_receive",
        "protocol_fee"] v
      | none
    pure ⟨← Json.required basket, ← Json.required send, ← Json.required receive,
      ← Json.required adapter, ← Json.required totalSend, ← Json.required totalReceive,
      ← Json.required fee⟩

instance : JsonForm HookMovement where
  encode m := Json.record [
    ("basket", encode m.basket),
    ("component", encode m.component),
    ("basket_quantity", encode m.basketQuantity),
    ("notional", encode m.notional)]
  decode? v := do
    let [basket, component, quantity, notional] ← Json.fields?
      ["basket", "component", "basket_quantity", "notional"] v
      | none
    pure ⟨← Json.required basket, ← Json.required component, ← Json.required quantity,
      ← Json.required notional⟩

namespace EventPayload

def encode : EventPayload → Json
  | moduleInitialized basket market params issuer =>
    Json.variant "ModuleInitialized" (Json.record [
      ("basket", JsonForm.encode basket), ("market_id", JsonForm.encode market),
      ("params", JsonForm.encode params), ("issuance_module", JsonForm.encode issuer)])
  | allowListUpdated basket allowed =>
    Json.variant "AllowListUpdated" (Json.record [
      ("basket", JsonForm.encode basket), ("allowed", JsonForm.encode allowed)])
  | anyBasketAllowedUpdated anyAllowed =>
    Json.variant "AnyBasketAllowedUpdated" (Json.record [
      ("any_basket_allowed", JsonForm.encode anyAllowed)])
  | issuanceModuleRegistered basket issuer =>
    Json.variant "IssuanceModuleRegistered" (Json.record [
      ("basket", JsonForm.encode basket), ("issuance_module", JsonForm.encode issuer)])
  | moduleRemoved basket withdrawn =>
    Json.variant "ModuleRemoved" (Json.record [
      ("basket", JsonForm.encode basket), ("collateral_withdrawn", JsonForm.encode withdrawn)])
  | collateralEntered basket collateral supplied unit =>
    Json.variant "CollateralEntered" (Json.record [
      ("basket", JsonForm.encode basket), ("collateral_asset", JsonForm.encode collateral),
      ("supplied", JsonForm.encode supplied), ("unit", JsonForm.encode unit)])
  | leverageIncreased change => Json.variant "LeverageIncreased" (JsonForm.encode change)
  | leverageDecreased change => Json.variant "LeverageDecreased" (JsonForm.encode change)
  | fullyDelevered basket loan residual =>
    Json.variant "FullyDelevered" (Json.record [
      ("basket", JsonForm.encode basket), ("loan_asset", JsonForm.encode loan),
      ("residual_loan_balance", JsonForm.encode residual)])
  | positionsSynced basket collateralUnit borrowUnit supply =>
    Json.variant "PositionsSynced" (Json.record [
      ("basket", JsonForm.encode basket), ("collateral_unit", JsonForm.encode collateralUnit),
      ("borrow_unit", JsonForm.encode borrowUnit), ("total_supply", JsonForm.encode supply)])
  | issueHookBorrowed movement => Json.variant "IssueHookBorrowed" (JsonForm.encode movement)
  | redeemHookRepaid movement => Json.variant "RedeemHookRepaid" (JsonForm.encode movement)

/-- The payload of the given name and content. -/
def ofVariant? (name : String) (content : Json) : Option EventPayload :=
  match name with
  | "ModuleInitialized" => do
    let [basket, market, params, issuer] ← Json.fields?
      ["basket", "market_id", "params", "issuance_module"] content
      | none
    pure (.moduleInitialized (← Json.required basket) (← Json.required market)
      (← Json.required params) (← Json.required issuer))
  | "AllowListUpdated" => do
    let [basket, allowed] ← Json.fields? ["basket", "allowed"] content | none
    pure (.allowListUpdated (← Json.required basket) (← Json.required allowed))
  | "AnyBasketAllowedUpdated" => do
    let [anyAllowed] ← Json.fields? ["any_basket_allowed"] content | none
    pure (.anyBasketAllowedUpdated (← Json.required anyAllowed))
  | "IssuanceModuleRegistered" => do
    let [basket, issuer] ← Json.fields? ["basket", "issuance_module"] content | none
    pure (.issuanceModuleRegistered (← Json.required basket) (← Json.required issuer))
  | "ModuleRemoved" => do
    let [basket, withdrawn] ← Json.fields? ["basket", "collateral_withdrawn"] content | none
    pure (.moduleRemoved (← Json.required basket) (← Json.required withdrawn))
  | "CollateralEntered" => do
    let [basket, collateral, supplied, unit] ← Json.fields?
      ["basket", "collateral_asset", "supplied", "unit"] content
      | none
    pure (.collateralEntered (← Json.required basket) (← Json.required collateral)
      (← Json.required supplied) (← Json.required unit))
  | "LeverageIncreased" => (decode? content).map .leverageIncreased
  | "LeverageDecreased" => (decode? content).map .leverageDecreased
  | "FullyDelevered" => do
    let [basket, loan, residual] ← Json.fields?
      ["basket", "loan_asset", "residual_loan_balance"] content
      | none
    pure (.fullyDelevered (← Json.required basket) (← Json.required loan)
      (← Json.required residual))
  | "PositionsSynced" => do
    let [basket, collateralUnit, borrowUnit, supply] ← Json.fields?
      ["basket", "collateral_unit", "borrow_unit", "total_supply"] content
      | none
    pure (.positionsSynced (← Json.required basket) (← Json.required collateralUnit)
      (← Json.required borrowUnit) (← Json.required supply))
  | "IssueHookBorrowed" => (decode? content).map .issueHookBorrowed
  | "RedeemHookRepaid" => (decode? content).map .redeemHookRepaid
  | _ => none

instance : JsonForm EventPayload where
  encode := encode
  decode? v := Json.variant? v >>= fun nc => ofVariant? nc.1 nc.2

end EventPayload

instance : JsonForm Event where
  encode e := Json.record [
    ("id", encode e.id), ("timestamp", encode e.time), ("payload", encode e.payload)]
  decode? v := do
    let [id, time, payload] ← Json.fields? ["id", "timestamp", "payload"] v | none
    pure ⟨← Json.required id, ← Json.required time, ← Json.required payload⟩

end LeveredBasket
