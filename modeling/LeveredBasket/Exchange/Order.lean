/-
Swap orders, and the adapters that turn them into calls.

A swap order says everything about one swap. An adapter knows one exchange: it
names the address that will pull the asset sent, and encodes an order as a call
that the basket then makes. Of the two kinds here one writes the order out for
a router, and the other passes the order's route on as it is.
-/
import LeveredBasket.Bytes
import LeveredBasket.Json.Form
import LeveredBasket.Token

set_option autoImplicit false

namespace LeveredBasket.Exchange

/-- **A swap order** (`dex::SwapOrder`). An adapter is asked in the same words
(`exchange::TradeRequest`). -/
structure SwapOrder where
  sendAsset : Address
  receiveAsset : Address
  recipient : Address
  sendQuantity : Amount
  minReceiveQuantity : Amount
  /-- What the one who asks for the swap has to say to the adapter. -/
  route : Bytes
deriving DecidableEq

/-- **A call** that a basket makes (`exchange::TradeCall`). -/
structure TradeCall where
  target : Address
  value : Amount
  payload : Bytes
deriving DecidableEq

/-! ## Errors -/

/-- What went wrong while a trade was carried out. -/
inductive TradeFailure where
  | unknownBasket (basket : Address)
  | unknownTarget (target : Address)
  /-- The payload is not the text of an order. -/
  | unreadableOrder
  | noRate (send receive : Address)
  | math (error : MathError)
  | ledger (error : LedgerError)
  | other (reason : String)
deriving DecidableEq

def TradeFailure.message : TradeFailure → String
  | unknownBasket basket => s!"unknown basket {basket}"
  | unknownTarget target => s!"unknown call target {target}"
  | unreadableOrder => "the payload is not a swap order"
  | noRate send receive => s!"no rate for {send} -> {receive}"
  | math error => error.message
  | ledger error => error.message
  | other reason => reason

/-- **Why an exchange refused a trade** (`exchange::ExchangeError`). -/
inductive ExchangeError where
  | unknownAdapter (name : String)
  | invalidTrade (reason : String)
  | executionFailed (failure : TradeFailure)
deriving DecidableEq

def ExchangeError.message : ExchangeError → String
  | unknownAdapter name => s!"Must be valid adapter: {name}"
  | invalidTrade reason => s!"Adapter rejected trade: {reason}"
  | executionFailed failure => "Trade execution failed: " ++ failure.message

/-- The name under which the error is reported. -/
def ExchangeError.name : ExchangeError → String
  | unknownAdapter .. => "UnknownAdapter"
  | invalidTrade .. => "InvalidTrade"
  | executionFailed .. => "ExecutionFailed"

/-! ## JSON forms -/

open JsonForm (encode)

instance : JsonForm SwapOrder where
  encode o := Json.record [
    ("send_asset", encode o.sendAsset),
    ("receive_asset", encode o.receiveAsset),
    ("recipient", encode o.recipient),
    ("send_quantity", encode o.sendQuantity),
    ("min_receive_quantity", encode o.minReceiveQuantity),
    ("route", encode o.route)]
  decode? v := do
    let [send, receive, recipient, quantity, minimum, route] ← Json.fields?
      ["send_asset", "receive_asset", "recipient", "send_quantity", "min_receive_quantity",
        "route"] v
      | none
    pure ⟨← Json.required send, ← Json.required receive, ← Json.required recipient,
      ← Json.required quantity, ← Json.required minimum, ← Json.required route⟩

instance : JsonForm TradeCall where
  encode c := Json.record [
    ("target", encode c.target), ("value", encode c.value), ("payload", encode c.payload)]
  decode? v := do
    let [target, value, payload] ← Json.fields? ["target", "value", "payload"] v | none
    pure ⟨← Json.required target, ← Json.required value, ← Json.required payload⟩

/-- The bytes of an order's text. -/
def SwapOrder.payload (o : SwapOrder) : Bytes := Bytes.ofText (JsonForm.text o)

/-- The order whose text these bytes are. -/
def SwapOrder.ofPayload? (payload : Bytes) : Option SwapOrder :=
  payload.text? >>= JsonForm.ofText?

/-! ## Adapters -/

/-- **An adapter** (`exchange::ExchangeAdapter`). -/
inductive Adapter where
  /-- Writes the order out for `router`; `spender` pulls the asset sent. -/
  | writesOrder (router spender : Address)
  /-- Calls `target` with the order's route; `spender` pulls the asset sent. -/
  | passesRoute (target spender : Address)
deriving DecidableEq

namespace Adapter

/-- The adapter of a venue that pulls what is sent by itself (`dex::FixedRateAdapter`). -/
def fixedRate (router : Address) : Adapter := .writesOrder router router

/-- The address that pulls the asset sent. -/
def spender : Adapter → Address
  | writesOrder _ spender => spender
  | passesRoute _ spender => spender

/-- The call for an order (`ExchangeAdapter::trade_calldata`). -/
def call (a : Adapter) (o : SwapOrder) : Except ExchangeError TradeCall :=
  match a with
  | writesOrder router _ =>
    if o.sendAsset = o.receiveAsset then .error (.invalidTrade "send and receive asset match")
    else .ok ⟨router, 0, o.payload⟩
  | passesRoute target _ => .ok ⟨target, 0, o.route⟩

end Adapter

end LeveredBasket.Exchange
