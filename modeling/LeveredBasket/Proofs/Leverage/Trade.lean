/-
What a trade (`LeverageModule::execute_trade`) depends on, and what it leaves
alone.

The least that a trade has to bring is compared with what has arrived, and with
nothing else: it is written into the order, but no venue looks at it there
(`Venue.swap_atLeast`). So to ask for more is to trade in the same way and then to
refuse what is too little (`trade_atLeast`).

A trade and its fee are a matter of tokens (`keepsBooks_trade`). To sell collateral
therefore leaves the debt of the basket as the withdrawal has found it (`sellCollateral_yields`).
-/
import LeveredBasket.Proofs.Exchange.Order
import LeveredBasket.Proofs.Lending.Bystanders
import LeveredBasket.Proofs.Leverage.Steps

set_option autoImplicit false

namespace LeveredBasket

open Exchange (Adapter SwapOrder)

/-- A basket's trade is carried out whatever the order asks for at least. -/
theorem Chain.invokeTrade_atLeast (basket target : Address) (value : Amount) (o : SwapOrder)
    (minimum : Amount) :
    Chain.invokeTrade basket
        ⟨target, value, SwapOrder.payload { o with minReceiveQuantity := minimum }⟩ =
      Chain.invokeTrade basket ⟨target, value, o.payload⟩ := by
  simp only [Chain.invokeTrade, Exchange.Venue.swap_atLeast]

namespace Leverage

open Lending (Bank Market)

/-- The same trade, if it brings at least `minimum`. -/
def TradePlan.atLeast (p : TradePlan) (minimum : Amount) : TradePlan :=
  { p with minReceive := minimum }

namespace Operation

variable {d : Desk} {basket : Address} {r : Record} {p : TradePlan} {route : Bytes}

/-! ## Plans (`LeverageModule::action_info`) -/

theorem plan_yields (d : Desk) (basket send receive : Address) (quantity minimum : Amount)
    (adapterName : String) (s : Session) :
    ((plan d basket send receive quantity minimum adapterName).run s).Yields fun p s' =>
      s' = s ∧ p.basket = basket ∧ p.minReceive = minimum := by
  simp only [Outcome.Yields, plan, walletOf, Action.ends_bind, Action.ends_require,
    Action.ends_read, Action.ends_ofExcept, ends_supplyOf, Action.run_pure, Outcome.ends_done,
    and_self, implies_true]

theorem planPerToken_yields (d : Desk) (basket send receive : Address) (units minimum : Amount)
    (adapterName : String) (s : Session) :
    ((planPerToken d basket send receive units minimum adapterName).run s).Yields fun p s' =>
      s' = s ∧ p.basket = basket := by
  simp only [Outcome.Yields, planPerToken, Action.ends_bind, ends_supplyOf, ends_compute,
    implies_true, and_true]
  intro b _ quantity _ least _
  refine (plan_yields d basket send receive quantity least adapterName s).yields ?_
  rintro p s' ⟨hs', hbasket, -⟩
  exact ⟨hs', hbasket⟩

/-! ## The least that has to come back -/

/-- A plan only takes down what has to come back. -/
theorem plan_atLeast (d : Desk) (basket send receive : Address) (quantity minimum : Amount)
    (adapterName : String) :
    plan d basket send receive quantity minimum adapterName = (do
      let p ← plan d basket send receive quantity 0 adapterName
      pure (p.atLeast minimum)) := by
  simp only [plan, bind_assoc, pure_bind]
  rfl

/-- Nothing for each token is nothing in all. -/
theorem planPerToken_zero (d : Desk) (basket send receive : Address) (units : Amount)
    (adapterName : String) :
    planPerToken d basket send receive units 0 adapterName = (do
      let supply ← supplyOf basket
      let quantity ← compute (Amount.preciseMul units supply)
      plan d basket send receive quantity 0 adapterName) := by
  have hnone (supply : Amount) : Amount.preciseMulUp 0 supply = .ok 0 := by
    refine Amount.mulDivUp_eq_ok.2 ⟨by decide, ?_⟩
    simp
  simp only [planPerToken, hnone]
  rfl

/-- A venue is called alike whatever has to come back. -/
theorem call_atLeast (a : Adapter) (basket : Address) (o : SwapOrder) (minimum : Amount) :
    (do
      let call ← .ofExcept ((a.call { o with minReceiveQuantity := minimum }).mapError .exchange)
      exchange (Chain.invokeTrade basket call) : Operation Unit) = (do
      let call ← .ofExcept ((a.call o).mapError .exchange)
      exchange (Chain.invokeTrade basket call)) := by
  cases a with
  | passesRoute target spender => rfl
  | writesOrder router spender =>
    simp only [Adapter.call]
    split
    · rfl
    · simp only [Except.mapError, Action.ofExcept_ok, pure_bind, Chain.invokeTrade_atLeast]

/-- **To ask for more is to refuse what is too little**, once it has arrived. -/
theorem trade_atLeast (hp : p.minReceive = 0) (route : Bytes) (minimum : Amount) :
    trade (p.atLeast minimum) route = (do
      let received ← trade p route
      .require (minimum ≤ received) (.slippageTooHigh received minimum)
      pure received) := by
  have hcall := call_atLeast p.adapter p.basket
    ⟨p.sendAsset, p.receiveAsset, p.basket, p.sendQuantity, p.minReceive, route⟩ minimum
  have hnone (received : Amount) : p.minReceive ≤ received := by
    rw [hp]
    exact Nat.zero_le _
  simp only [trade, TradePlan.atLeast, bind_assoc, pure_bind, Action.require_pos (hnone _)]
  refine bind_congr fun _ => ?_
  rw [← bind_assoc, hcall, bind_assoc]
  rfl

/-! ## What a trade leaves alone -/

section Books

variable {books : Lending.Pool × FiniteMap Address Record × List EventPayload}

/-- **A trade leaves the books alone.** -/
theorem keepsBooks_trade (p : TradePlan) (route : Bytes) :
    (trade p route).Keeps (fun s => s.books = books) fun _ => True := by
  refine .bind (keepsBooks_basket p.basket (.approve _ _ _)) fun _ => ?_
  refine .bind (.ofExcept fun _ _ => trivial) fun call => ?_
  refine .bind (keepsBooks_onChain fun _ => ?_) fun _ => ?_
  · exact (TokenBook.stable_true fun _ => True).keeps_trade trivial call
  refine .bind (.read _) fun balance => ?_
  exact .bind (.require _ trivial) fun _ => .pure _

theorem keepsBooks_chargeFee (d : Desk) (basket asset : Address) (amount : Amount) :
    (chargeFee d basket asset amount).Keeps (fun s => s.books = books) fun _ => True := by
  refine .bind (.read _) fun rate => .bind (.require _ trivial) fun _ => ?_
  refine .bind (keepsBooks_compute _) fun fee => .ite (fun _ => .pure _) fun _ => ?_
  refine .bind (.read _) fun recipient => ?_
  exact .bind (keepsBooks_basket basket (.transfer asset recipient fee)) fun _ => .pure _

end Books

/-! ## Selling collateral -/

/-- **To ask for more of a sale is to refuse what is too little.** -/
theorem run_sellCollateral_atLeast (hp : p.minReceive = 0) (minimum : Amount) {s s' : Session}
    {sold : Amount × Amount × Amount} :
    (sellCollateral d r (p.atLeast minimum) route).run s = .done sold s' ↔
      (sellCollateral d r p route).run s = .done sold s' ∧ minimum ≤ sold.1 := by
  unfold sellCollateral
  refine Action.run_bind_done_congr fun _ s₁ _ => ?_
  rw [trade_atLeast hp, bind_assoc]
  refine Action.run_bind_done_congr fun received s₂ _ => ?_
  rw [bind_assoc, Action.run_require_bind_eq_done, pure_bind, and_comm]
  -- what comes first in the value is what has arrived
  refine and_congr_right fun hdone => ?_
  obtain ⟨fee, s₃, -, hdone⟩ := Action.run_bind_eq_done.1 hdone
  obtain ⟨net, s₄, -, hdone⟩ := Action.run_bind_eq_done.1 hdone
  cases hdone
  rfl

/-- **A sale of collateral** accrues the market, and takes collateral out of it and nothing else.
What is left of what has arrived is no more than that. -/
theorem sellCollateral_yields (d : Desk) (r : Record) (p : TradePlan) (route : Bytes)
    (s : Session) : ((sellCollateral d r p route).run s).Yields fun sold s' =>
      sold.2.2.toNat ≤ sold.1.toNat ∧ s'.chain.pool.now = s.chain.pool.now ∧
        ∃ m₀ m m' : Market, s.chain.pool.markets.get? r.params.id = some m₀ ∧
          m₀.Accrued s.chain.pool.now m ∧ m'.totals = m.totals ∧
          (m'.account p.basket).borrowShares = (m.account p.basket).borrowShares ∧
          s'.chain.pool.markets.get? r.params.id = some m' := by
  rw [Outcome.Yields, sellCollateral, Action.ends_bind, ends_lending]
  refine (Bank.withdrawCollateral_ends r.params p.basket p.sendQuantity p.basket _).yields ?_
  rintro _ _ ⟨m₀, m, m', t, hm₀, haccrued, -, htotals, hshares, -, -, -, rfl⟩
  refine Action.yields_bind (keepsBooks_trade p route _ rfl) ?_
  intro received s₁ hbooks₁
  refine Action.yields_bind (keepsBooks_chargeFee d p.basket p.receiveAsset received s₁ hbooks₁) ?_
  intro fee _ hbooks₂
  refine Action.yields_bind (compute_yields _ _) ?_
  rintro net s₂ ⟨hnet, rfl⟩
  have hpool : s₂.chain.pool = (s.chain.toBank.booked r.params m').pool :=
    congrArg Prod.fst hbooks₂
  have hle : net.toNat ≤ received.toNat := by
    have := Amount.sub_eq_ok.1 hnet
    omega
  refine ⟨hle, ?_, m₀, m, m', hm₀, haccrued, htotals, hshares, ?_⟩
  · rw [hpool]
    rfl
  · rw [hpool]
    exact Bank.get?_booked_self

end Operation

end Leverage

end LeveredBasket
