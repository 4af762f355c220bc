/-
What a manager may rely on when a basket trades.

The limits of a trade are told for each token of the basket. What is sent is scaled
down and what has to come back is scaled up (`LeverageModule::action_info`), so
that neither rounding is to the basket's cost (`Amount.floor_of_preciseMul`,
`Amount.ceil_of_preciseMulUp`). What has come back is measured on the wallet
(`LeverageModule::execute_trade`), against what was there when the trade was
planned. The pool gives what is to be sent after that, but in the other asset, so
the measure is what the trade itself has brought (`Chain.TradedFor.within`).

Nothing in this depends on the adapter: it may make of the order what it likes.
-/
import LeveredBasket.Proofs.Leverage.Course

set_option autoImplicit false

namespace LeveredBasket

open Exchange (Adapter SwapOrder)
open Lending (Bank Market MarketParams Movement)

/-- **A trade within its limits.** For each token at most so many units are sent, and no more than
rounding is missing of them. What counts as received is what the trade has brought to the wallet,
none if it has brought less than nothing, and for each token at least so many units of it. -/
structure Chain.TradedWithin (basket : Address) (a : Adapter) (o : SwapOrder)
    (units least supply received : Amount) (c c' : Chain) : Prop where
  exchanged : Chain.Exchanged basket a o c c'
  sent_le : o.sendQuantity.toNat * Amount.one.toNat ≤ units.toNat * supply.toNat
  lt_sent : units.toNat * supply.toNat < (o.sendQuantity.toNat + 1) * Amount.one.toNat
  arrived : received = (c'.tokens.balance o.receiveAsset basket).truncatedSub
    (c.tokens.balance o.receiveAsset basket)
  least_le : least.toNat * supply.toNat ≤ received.toNat * Amount.one.toNat

/-- **A basket of the desk has traded within its limits**: through the adapter of this name, at the
supply that there was, and from when interest had been accrued and the pool had given what is
sent. -/
def Leverage.World.TradedWithin (w : Leverage.World) (basket : Address)
    (send receive : MarketParams → Address) (give : MarketParams → Bank.Call Unit)
    (units least : Amount) (adapterName : String) (route : Bytes) (sent received : Amount) : Prop :=
  ∃ r b adapter minimum bank c, w.desk.records.get? basket = some r ∧
    w.chain.baskets.get? basket = some b ∧
    w.chain.registry.adapter w.desk.address adapterName = .ok adapter ∧
    (do
      Bank.accrue r.params
      give r.params : Bank.Call Unit).run w.chain.toBank = .done () bank ∧
    Chain.TradedWithin basket adapter
      ⟨send r.params, receive r.params, basket, sent, minimum, route⟩ units least b.supply
      received { w.chain with toBank := bank } c

namespace Amount

variable {a b c : Amount}

/-! ## Scaling -/

/-- A product that is rounded down is within one below the exact one. -/
theorem floor_of_preciseMul (h : preciseMul a b = .ok c) :
    c.toNat * one.toNat ≤ a.toNat * b.toNat ∧
      a.toNat * b.toNat < (c.toNat + 1) * one.toNat := by
  have hone : 0 < one.toNat := by decide
  rw [(mulDivDown_eq_ok.1 h).2]
  refine ⟨Nat.div_mul_le_self _ _, ?_⟩
  rw [Nat.mul_comm (_ + 1)]
  exact Nat.lt_mul_div_succ _ hone

/-- A product that is rounded up covers the exact one. -/
theorem ceil_of_preciseMulUp (h : preciseMulUp a b = .ok c) :
    a.toNat * b.toNat ≤ c.toNat * one.toNat := by
  obtain ⟨hone, hceil⟩ := mulDivUp_eq_ok.1 h
  rw [hceil]
  exact le_ceilDiv_mul _ hone

end Amount

/-! ## Trades -/

/-- **A desk trades within the limits**, if the bank has given nothing of what is received. -/
theorem Chain.TradedFor.within {d : Leverage.Desk} {basket : Address} {units least : Amount}
    {adapterName : String} {a : Adapter} {b : Basket} {o : SwapOrder} {received fee net : Amount}
    {bank : Bank} {c c' : Chain} {t : TokenBook}
    (h : Chain.TradedFor d basket units adapterName a b o received fee net bank c c' t)
    (hbefore : bank.tokens.balance o.receiveAsset basket = c.tokens.balance o.receiveAsset basket)
    (hleast : least.toNat * b.supply.toNat ≤ o.minReceiveQuantity.toNat * Amount.one.toNat) :
    Chain.TradedWithin basket a o units least b.supply received { c with toBank := bank } c' := by
  obtain ⟨hle, hlt⟩ := Amount.floor_of_preciseMul h.quantity
  refine ⟨h.brokered.exchanged, hle, hlt, ?_, ?_⟩
  · rw [h.brokered.arrived, ← hbefore]
  · exact hleast.trans (Nat.mul_le_mul_right _ h.brokered.enough)

namespace Leverage

/-- A sale is made within its limits. -/
theorem Sale.within {w : World} {basket : Address} {units least minimum sent : Amount}
    {adapterName : String} {route : Bytes} {r : Record} {m : Market} {adapter : Adapter}
    {b : Basket} {received fee net : Amount} {bank : Bank} {c : Chain} {t : TokenBook}
    (h : Sale w.desk basket units adapterName r m adapter b
      ⟨r.params.collateralAsset, r.params.loanAsset, basket, sent, minimum, route⟩ received fee net
      bank w.chain c t) (hr : w.desk.records.get? basket = some r)
    (hdistinct : r.params.collateralAsset ≠ r.params.loanAsset)
    (hleast : least.toNat * b.supply.toNat ≤ minimum.toNat * Amount.one.toNat) :
    w.TradedWithin basket (·.collateralAsset) (·.loanAsset)
      (Bank.withdrawCollateral · basket sent basket) units least adapterName route sent received :=
  ⟨r, b, adapter, minimum, bank, c, hr, h.traded.found, h.traded.registered,
    Action.run_bind_eq_done.2 ⟨(), _, h.accrued, h.withdrawn⟩,
    h.traded.within (h.balance_of_ne hdistinct.symm) hleast⟩

/-- **Limits hold exactly, whatever the adapter.** In a world that can come about let a basket be
levered or delevered. Then it has traded what the report says, within the limits that the manager
set. To delever to zero, where no least is set, it has received as much as the debt with its
interest and the fee on top. -/
theorem World.Reachable.limits_hold {w : World} (hw : w.Reachable) (caller basket : Address)
    (units least : Amount) (adapterName : String) (route : Bytes) :
    (∀ report w', (World.lever caller basket units least adapterName route).run w =
        .done report w' →
      w.TradedWithin basket (·.loanAsset) (·.collateralAsset)
        (fun params => do let _ ← Bank.borrow params basket report.borrowed basket)
        units least adapterName route report.borrowed report.received) ∧
    (∀ report w', (World.delever caller basket units least adapterName route).run w =
        .done report w' →
      w.TradedWithin basket (·.collateralAsset) (·.loanAsset)
        (Bank.withdrawCollateral · basket report.collateralWithdrawn basket)
        units least adapterName route report.collateralWithdrawn report.received) ∧
    ∀ report w', (World.deleverToZero caller basket units adapterName route).run w =
        .done report w' →
      w.TradedWithin basket (·.collateralAsset) (·.loanAsset)
        (Bank.withdrawCollateral · basket report.collateralWithdrawn basket)
        units 0 adapterName route report.collateralWithdrawn report.received ∧
      ∃ r m debt, w.desk.records.get? basket = some r ∧
        (Bank.accrue r.params).run w.chain.toBank =
          .done () (w.chain.toBank.booked r.params m) ∧
        m.debtOf basket = .ok debt ∧
        debt.toNat + report.protocolFee.toNat ≤ report.received.toNat := by
  refine ⟨fun report w' h => ?_, fun report w' h => ?_, fun report w' h => ?_⟩
  · obtain ⟨s, log, hdone, rfl⟩ := World.operate_yields h
    obtain ⟨r, m, adapter, b, minimum, bank, c, t, hr, hminimum, hlevered⟩ :=
      (Operation.lever_course w.desk caller basket units least adapterName route _).done hdone
    obtain ⟨moved, -, hborrow⟩ := hlevered.borrowed
    obtain ⟨m₁, m₂, t₁, -, -, -, hgiven, rfl, -, -⟩ := hlevered.banked
    have hdistinct := (hw.orderly.records basket r hr).distinct
    exact ⟨r, b, adapter, minimum, _, c, hr, hlevered.traded.found, hlevered.traded.registered,
      Action.run_bind_eq_done.2 ⟨(), _, hlevered.accrued,
        Action.run_forget_eq_done.2 ⟨moved, hborrow⟩⟩,
      hlevered.traded.within (hgiven.balance_of_ne hdistinct basket)
        (Amount.ceil_of_preciseMulUp hminimum)⟩
  · obtain ⟨s, log, hdone, rfl⟩ := World.operate_yields h
    obtain ⟨r, m, adapter, b, minimum, net, bank, c, t, s₁, hr, hminimum, hsale, -, -⟩ :=
      (Operation.delever_course w.desk caller basket units least adapterName route _).done hdone
    exact hsale.within hr (hw.orderly.records basket r hr).distinct
      (Amount.ceil_of_preciseMulUp hminimum)
  · obtain ⟨s, log, hdone, rfl⟩ := World.operate_yields h
    obtain ⟨r, m, bal, adapter, b, net, bank, c, t, moved, bank', hr, hbal, hsale, hcovered, -⟩ :=
      (Operation.deleverToZero_course w.desk caller basket units adapterName route _).done hdone
    have hsound := hw.orderly.records basket r hr
    have hdebt := (Record.balances_market hsound.market Bank.get?_booked_self hbal).1
    refine ⟨hsale.within hr hsound.distinct ?_, r, m, bal.borrow, hr, hsale.accrued, hdebt, ?_⟩
    · rw [Word.toNat_zero, Nat.zero_mul]
      exact Nat.zero_le _
    · -- the debt is covered by what the fee has left
      have hnet := hsale.traded.brokered.net
      omega

open Deployment in
/-- So it is for the basket of the reference deployment that owes three of the smallest units. It
may be levered by as many again, or delevered by as much collateral as that is worth. -/
theorem World.limits_hold_of_owing : ∃ w up w₁ down w₂ out w₃,
    World.runs owing (start .usual) = some w ∧
    (World.lever manager Deployment.basket (number 3) (number 1_000_000_000) adapterName []).run w =
      .done up w₁ ∧
    (World.delever manager Deployment.basket (number 1_000_000_000) (number 3) adapterName []).run
      w = .done down w₂ ∧
    (World.deleverToZero manager Deployment.basket (number 1_000_000_000) adapterName []).run w =
      .done out w₃ ∧
    w.TradedWithin Deployment.basket (·.loanAsset) (·.collateralAsset)
      (fun params => do let _ ← Bank.borrow params Deployment.basket up.borrowed Deployment.basket)
      (number 3) (number 1_000_000_000) adapterName [] up.borrowed up.received ∧
    w.TradedWithin Deployment.basket (·.collateralAsset) (·.loanAsset)
      (Bank.withdrawCollateral · Deployment.basket down.collateralWithdrawn Deployment.basket)
      (number 1_000_000_000) (number 3) adapterName [] down.collateralWithdrawn down.received ∧
    w.TradedWithin Deployment.basket (·.collateralAsset) (·.loanAsset)
      (Bank.withdrawCollateral · Deployment.basket out.collateralWithdrawn Deployment.basket)
      (number 1_000_000_000) 0 adapterName [] out.collateralWithdrawn out.received := by
  have htrades : ((World.runs owing (start .usual)).map fun w =>
      ((World.lever manager Deployment.basket (number 3) (number 1_000_000_000) adapterName
        []).run w).isDone &&
      ((World.delever manager Deployment.basket (number 1_000_000_000) (number 3) adapterName
        []).run w).isDone &&
      ((World.deleverToZero manager Deployment.basket (number 1_000_000_000) adapterName
        []).run w).isDone) = some true := by decide +kernel
  obtain ⟨w, hw, htrades⟩ := Option.map_eq_some_iff.1 htrades
  simp only [Bool.and_eq_true] at htrades
  obtain ⟨⟨hlevers, hdelevers⟩, hclears⟩ := htrades
  obtain ⟨up, w₁, hup⟩ := Outcome.exists_of_isDone hlevers
  obtain ⟨down, w₂, hdown⟩ := Outcome.exists_of_isDone hdelevers
  obtain ⟨out, w₃, hout⟩ := Outcome.exists_of_isDone hclears
  have hreachable : w.Reachable := ⟨pool, router, feeRecipient, holder, owner, .usual, _, hw⟩
  obtain ⟨hlever, -, -⟩ := World.Reachable.limits_hold hreachable manager Deployment.basket
    (number 3) (number 1_000_000_000) adapterName []
  obtain ⟨-, hdelever, hclear⟩ := World.Reachable.limits_hold hreachable manager Deployment.basket
    (number 1_000_000_000) (number 3) adapterName []
  exact ⟨w, up, w₁, down, w₂, out, w₃, hw, hup, hdown, hout, hlever up w₁ hup,
    hdelever down w₂ hdown, (hclear out w₃ hout).1⟩

end Leverage

end LeveredBasket
