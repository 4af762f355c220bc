/-
Two ways to be rid of a debt.

To delever to zero (`LeverageModule::delever_to_zero_borrow_balance`) is to insist
that the sale brings the whole debt; to delever (`LeverageModule::delever`) is to
repay what it brings, and to report whether that was all. Where the one goes
through, so does the other with nothing asked for at least, and to the same end;
and where the other reports that the debt is gone, so would have done the one
(`World.Reachable.full_delever_agrees`).

The one works out the debt before the sale, the other after it. The sale does not
move the debt, so both come to the same amount. If the sale brings less, the shares
that it pays for are rounded down, so that at least one is left
(`Operation.cleared_iff`).

The balances are read before the sale in the one way only, and a balance is a sum
that may not fit. That is the difference between the two: a basket with so much
collateral that wallet and market together go beyond what an amount can be cannot be
delevered to zero, even where delevering would do it
(`World.full_delever_differs_of_overflowing`).
-/
import LeveredBasket.Proofs.Leverage.Trade

set_option autoImplicit false

namespace LeveredBasket.Leverage

open Lending (Bank Market Movement RepayAmount)

/-! ## Clearing a debt (`LeverageModule::repay_capped`) -/

/-- Assets short of what shares are worth, rounded up, do not buy them all. -/
theorem bought_lt_of_lt_worth {net shares A S : Nat} (hS : 0 < S)
    (h : net < (shares * A) ⌈/⌉ S) : net * S / A < shares := by
  have hless : net * S < shares * A := by
    rw [← Nat.not_le, Nat.mul_comm net S]
    exact fun hle => Nat.not_le.2 h ((ceilDiv_le_iff_le_mul hS).2 hle)
  exact Nat.div_lt_of_lt_mul (by rwa [Nat.mul_comm A shares])

namespace Operation

variable {basket : Address} {r : Record} {m m' : Market} {bal : Balances} {moved : Movement}
variable {available debt : Amount} {s s' : Session}

/-- **A repayment of what is available clears the account exactly if that covers the debt.** -/
theorem cleared_iff (hdebt : m.debtOf basket = .ok bal.borrow)
    (hshares : bal.borrowShares = (m.account basket).borrowShares) (howes : bal.borrowShares ≠ 0)
    (h : m.Repaid basket (repayAmount bal available) moved m') :
    (m'.account basket).borrowShares = 0 ↔ bal.borrow ≤ available := by
  have hpositive : 0 < bal.borrowShares.toNat := Amount.toNat_pos_iff.2 howes
  have haccount := h.account
  have hprice := h.price
  rw [← hshares] at haccount
  rw [Word.ext_iff, Word.toNat_zero]
  unfold repayAmount at hprice
  split at hprice
  case isTrue hcovered =>
    have hall := congrArg Word.toNat (Bank.movementOf_shares hprice).1
    rw [iff_true_right hcovered]
    omega
  case isFalse hshort =>
    have hless : available.toNat < bal.borrow.toNat := Nat.lt_of_not_le hshort
    rw [Share.toAssets_up_eq_ok hdebt, ← hshares] at hless
    have hbought := bought_lt_of_lt_worth (Nat.succ_pos _) hless
    rw [← Share.ofAssets_down_eq_ok (Bank.movementOf_assets hprice).2] at hbought
    rw [iff_false_right hshort]
    omega

/-- A debt that there is comes to something. -/
theorem debt_ne_zero (hdebt : m.debtOf basket = .ok debt)
    (howes : (m.account basket).borrowShares ≠ 0) : debt ≠ 0 := by
  rw [← Amount.toNat_pos_iff, Share.toAssets_up_eq_ok hdebt]
  exact Lending.ceilDiv_pos (Nat.mul_pos (Amount.toNat_pos_iff.2 howes) (Nat.succ_pos _))
    (Nat.succ_pos _)

section Settled

variable (hmarket : r.market = r.params.id)
  (hm : s.chain.pool.markets.get? r.params.id = some m)
  (hsettled : s.chain.pool.now ≤ m.totals.lastUpdate) (hdebt : m.debtOf basket = .ok debt)
  (howes : (m.account basket).borrowShares ≠ 0)

include hmarket hm hsettled hdebt howes

/-- **A capped repayment clears the debt exactly where it covers it.** -/
theorem repayCapped_clears {repaid : Amount}
    (h : (repayCapped r basket available).run s = .done repaid s') :
    (s'.chain.pool.account r.market basket).borrowShares = 0 ↔ debt ≤ available := by
  obtain ⟨bal, hbal, hcase⟩ := (repayCapped_yields r basket available s).done h
  obtain ⟨hborrow, hshares⟩ := Record.balances_market hmarket hm hbal
  obtain rfl : debt = bal.borrow := Except.ok.inj (hdebt.symm.trans hborrow)
  have howes' : bal.borrowShares ≠ 0 := hshares ▸ howes
  obtain ⟨hnone, -, rfl⟩ | ⟨-, moved, b, hrepay, -, rfl⟩ := hcase
  · -- nothing was repaid, because there was nothing to repay with
    have havailable : available = 0 := hnone.resolve_left howes'
    have hnonzero := Amount.toNat_pos_iff.2 (debt_ne_zero hdebt howes)
    rw [Record.account_market hmarket hm, havailable, iff_false_left howes]
    exact Nat.not_le.2 hnonzero
  · obtain ⟨m₀, m₁, m', t, hm₀, haccrued, hrepaid, -, -, -, rfl⟩ :=
      (Bank.repay_ends r.params basket _ s.chain.toBank).done hrepay
    obtain rfl : m = m₀ := Option.some.inj (hm.symm.trans hm₀)
    obtain rfl := haccrued.of_settled hsettled
    rw [Record.account_market hmarket Bank.get?_booked_self]
    exact cleared_iff hdebt hshares howes' hrepaid

/-- A repayment moves nothing that a collateral is counted in, so that balances which can be told
after it could be told before it. -/
theorem exists_balances_of_repaid (hdistinct : r.params.collateralAsset ≠ r.params.loanAsset)
    {amount : RepayAmount} {b : Bank}
    (h : (Bank.repay r.params basket amount).run s.chain.toBank = .done moved b)
    (hbal : r.balances (s.withBank b).chain basket = .ok bal) :
    ∃ bal₀, r.balances s.chain basket = .ok bal₀ := by
  obtain ⟨m₀, m₁, m', t, hm₀, haccrued, hrepaid, -, hcollateral, htransferred, rfl⟩ :=
    (Bank.repay_ends r.params basket amount s.chain.toBank).done h
  obtain rfl : m = m₀ := Option.some.inj (hm.symm.trans hm₀)
  obtain rfl := haccrued.of_settled hsettled
  obtain ⟨-, -, hsum⟩ := (Record.balances_iff hmarket Bank.get?_booked_self).1 hbal
  have hwallet : t.balance r.params.collateralAsset basket =
      s.chain.tokens.balance r.params.collateralAsset basket :=
    htransferred.balance_of_ne hdistinct basket
  change (t.balance r.params.collateralAsset basket).add _ = _ at hsum
  rw [hwallet, hcollateral] at hsum
  exact ⟨⟨bal.collateral, debt, (m₁.account basket).borrowShares⟩,
    (Record.balances_iff hmarket hm).2 ⟨hdebt, rfl, hsum⟩⟩

end Settled

/-! ## Reports -/

theorem writeResidual_yields (r : Record) (basket : Address) (supply : Amount) (s : Session) :
    ((writeResidual r basket supply).run s).Yields fun _ s' =>
      s'.books = s.books ∧ s'.chain.toBank = s.chain.toBank := by
  simp only [Outcome.Yields, writeResidual, walletOf, Action.ends_bind, Action.ends_read,
    ends_compute, Action.run_pure, Outcome.ends_done, implies_true, and_true]
  intro unit _
  refine (writeDefault_yields basket _ unit s).yields ?_
  rintro _ _ ⟨c, hwrote, rfl⟩
  exact ⟨congrArg (fun b : Bank => (b.pool, s.records, s.events)) hwrote.toBank, hwrote.toBank⟩

/-- **The report of a delevering says whether the debt is gone**, and rests on balances that can be
told. -/
theorem finishDelever_yields (d : Desk) (r : Record) (p : TradePlan)
    (received fee repaid : Amount) (s : Session) :
    ((finishDelever d r p received fee repaid).run s).Yields fun report s' =>
      (report.fullyDelevered = true ↔
        (s.chain.pool.account r.market p.basket).borrowShares = 0) ∧
        (∃ bal, r.balances s.chain p.basket = .ok bal) ∧ s'.chain.pool = s.chain.pool := by
  rw [finishDelever]
  refine Action.yields_bind (writeResidual_yields r p.basket p.supply s) ?_
  rintro residual s₁ ⟨-, hs₁⟩
  refine Action.yields_bind (writePositions_yields d p.basket r p.supply s₁) ?_
  rintro report s₂ ⟨-, hs₂, bal, hbal⟩
  rw [r.balances_toBank hs₁] at hbal
  have hpool : s₂.chain.pool = s.chain.pool := congrArg Bank.pool (hs₂.trans hs₁)
  simp only [Action.ends_bind, Action.ends_read, hpool]
  by_cases hfully : (s.chain.pool.account r.market p.basket).borrowShares = 0
  · simp only [hfully, emit]
    exact ⟨by simp, ⟨bal, hbal⟩, hpool⟩
  · simp only [hfully, emit]
    exact ⟨by simp, ⟨bal, hbal⟩, hpool⟩

/-- What had to come back is no part of a report. -/
theorem finishDelever_atLeast (d : Desk) (r : Record) (p : TradePlan)
    (minimum received fee repaid : Amount) :
    finishDelever d r (p.atLeast minimum) received fee repaid =
      finishDelever d r p received fee repaid := rfl

/-! ## The two ways down -/

section Settled

variable (hmarket : r.market = r.params.id)
  (hm : s.chain.pool.markets.get? r.params.id = some m)
  (hsettled : s.chain.pool.now ≤ m.totals.lastUpdate) (hdebt : m.debtOf basket = .ok debt)
  (howes : (m.account basket).borrowShares ≠ 0)
  (hdistinct : r.params.collateralAsset ≠ r.params.loanAsset)

include hmarket hm hsettled hdebt howes hdistinct

/-- **To insist on the whole debt is to repay what there is** and to report that the debt is
gone. -/
theorem settle_iff {d : Desk} {p : TradePlan} (hp : p.basket = basket)
    {received fee net : Amount} {report : DeleverReport} :
    ((do
      Action.require (debt ≤ net) (.slippageTooHigh net debt)
      let moved ← lending (Bank.repay r.params basket (.shares (m.account basket).borrowShares))
      finishDelever d r p received fee moved.assets : Operation DeleverReport).run s =
        .done report s') ↔
    ((do
      let repaid ← repayCapped r basket net
      finishDelever d r p received fee repaid : Operation DeleverReport).run s = .done report s') ∧
      report.fullyDelevered = true := by
  -- where the balances can be told and the debt is covered, both repay the same shares
  have hcapped (hcovered : debt ≤ net) {bal : Balances}
      (hbal : r.balances s.chain basket = .ok bal) : (repayCapped r basket net).run s =
      (do
        let moved ← lending (Bank.repay r.params basket (.shares (m.account basket).borrowShares))
        pure moved.assets : Operation Amount).run s := by
    obtain ⟨hborrow, hshares⟩ := Record.balances_market hmarket hm hbal
    have hdebt' : debt = bal.borrow := Except.ok.inj (hdebt.symm.trans hborrow)
    have hnet : net ≠ 0 := by
      rintro rfl
      exact Nat.not_le.2 (Amount.toNat_pos_iff.2 (debt_ne_zero hdebt howes)) hcovered
    have hall := repayCapped_covered hbal (hshares ▸ howes) hnet (hdebt' ▸ hcovered)
    rw [hshares] at hall
    exact hall
  rw [Action.run_require_bind_eq_done]
  constructor
  · rintro ⟨hcovered, hdone⟩
    obtain ⟨moved, s₁, hrepay, hfinish⟩ := Action.run_bind_eq_done.1 hdone
    obtain ⟨b, hrepaid, rfl⟩ := run_lending_eq_done.1 hrepay
    obtain ⟨hfully, ⟨bal₁, hbal₁⟩, -⟩ := (finishDelever_yields d r p _ _ _ _).done hfinish
    rw [hp] at hfully hbal₁
    obtain ⟨bal, hbal⟩ :=
      exists_balances_of_repaid hmarket hm hsettled hdebt howes hdistinct hrepaid hbal₁
    have hrun : (repayCapped r basket net).run s = .done moved.assets (s.withBank b) := by
      rw [hcapped hcovered hbal]
      exact Action.run_bind_eq_done.2 ⟨moved, _, hrepay, rfl⟩
    have hcleared := (repayCapped_clears hmarket hm hsettled hdebt howes hrun).2 hcovered
    exact ⟨Action.run_bind_eq_done.2 ⟨_, _, hrun, hfinish⟩, hfully.2 hcleared⟩
  · rintro ⟨hdone, hreport⟩
    obtain ⟨repaid, s₁, hrun, hfinish⟩ := Action.run_bind_eq_done.1 hdone
    obtain ⟨hfully, -⟩ := (finishDelever_yields d r p _ _ _ _).done hfinish
    rw [hp] at hfully
    have hcleared := hfully.1 hreport
    have hcovered := (repayCapped_clears hmarket hm hsettled hdebt howes hrun).1 hcleared
    obtain ⟨bal, hbal, -⟩ := (repayCapped_yields r basket net s).done hrun
    rw [hcapped hcovered hbal] at hrun
    obtain ⟨moved, s₂, hrepay, hpure⟩ := Action.run_bind_eq_done.1 hrun
    cases hpure
    exact ⟨hcovered, Action.run_bind_eq_done.2 ⟨moved, _, hrepay, hfinish⟩⟩

end Settled

/-- Whoever delevers has a debt that can be told, because it is told after the sale. -/
theorem delever_debt (hmarket : r.market = r.params.id)
    (hm : s.chain.pool.markets.get? r.params.id = some m)
    (hsettled : s.chain.pool.now ≤ m.totals.lastUpdate) (d : Desk) (units : Amount)
    (adapterName : String) (route : Bytes) :
    ((do
      let p ← planPerToken d basket r.params.collateralAsset r.params.loanAsset units 0 adapterName
      let (received, fee, net) ← sellCollateral d r p route
      let repaid ← repayCapped r basket net
      finishDelever d r p received fee repaid : Operation DeleverReport).run s).Yields fun _ _ =>
        ∃ debt, m.debtOf basket = .ok debt := by
  refine Action.yields_bind (planPerToken_yields d basket _ _ units 0 adapterName s) ?_
  rintro p _ ⟨rfl, rfl⟩
  refine Action.yields_bind (sellCollateral_yields d r p route _) ?_
  rintro ⟨received, fee, net⟩ s₁ ⟨-, -, m₀, m₁, m₂, hm₀, haccrued, htotals, hshares, hm₂⟩
  obtain rfl : m = m₀ := Option.some.inj (hm.symm.trans hm₀)
  obtain rfl := haccrued.of_settled hsettled
  refine Action.yields_bind (repayCapped_yields r p.basket net s₁) ?_
  rintro repaid s₂ ⟨bal, hbal, -⟩
  have hdebt := (Record.balances_market hmarket hm₂ hbal).1
  rw [Market.debtOf, htotals, hshares] at hdebt
  exact Outcome.ends_of (fun _ _ => ⟨_, hdebt⟩) fun _ _ => trivial

/-- After accrual the two ways down are the same, except that the one looks at balances first. -/
theorem afterAccrual_iff (hmarket : r.market = r.params.id)
    (hm : s.chain.pool.markets.get? r.params.id = some m)
    (hsettled : s.chain.pool.now ≤ m.totals.lastUpdate)
    (howes : (m.account basket).borrowShares ≠ 0)
    (hdistinct : r.params.collateralAsset ≠ r.params.loanAsset) (d : Desk) (units : Amount)
    (adapterName : String) (route : Bytes) {report : DeleverReport} :
    ((do
      let balances ← balancesOf r basket
      Action.require (balances.borrowShares ≠ 0) .borrowBalanceZero
      let supply ← supplyOf basket
      let sendQuantity ← compute (Amount.preciseMul units supply)
      let p ← plan d basket r.params.collateralAsset r.params.loanAsset sendQuantity
        balances.borrow adapterName
      let (received, fee, net) ← sellCollateral d r p route
      Action.require (balances.borrow ≤ net) (.slippageTooHigh net balances.borrow)
      let moved ← lending (Bank.repay r.params basket (.shares balances.borrowShares))
      finishDelever d r p received fee moved.assets : Operation DeleverReport).run s =
        .done report s') ↔
    ((do
      let p ← planPerToken d basket r.params.collateralAsset r.params.loanAsset units 0 adapterName
      let (received, fee, net) ← sellCollateral d r p route
      let repaid ← repayCapped r basket net
      finishDelever d r p received fee repaid : Operation DeleverReport).run s = .done report s') ∧
      report.fullyDelevered = true ∧
        (s.chain.tokens.balance r.params.collateralAsset basket).toNat +
          (m.account basket).collateral.toNat < 1 <<< 128 := by
  cases hbal : r.balances s.chain basket with
  | error e =>
    -- the debt can be told if anything is repaid at all, so it is the sum that does not fit
    rw [Action.run_bind, run_balancesOf_error hbal]
    constructor
    · intro h
      cases h
    · rintro ⟨hdone, -, hfits⟩
      obtain ⟨debt, hdebt⟩ :=
        (delever_debt hmarket hm hsettled d units adapterName route).done hdone
      have hok : r.balances s.chain basket = .ok ⟨⟨_, hfits⟩, debt, _⟩ :=
        (Record.balances_iff hmarket hm).2 ⟨hdebt, rfl, Amount.add_eq_ok.2 rfl⟩
      cases hbal.symm.trans hok
  | ok bal =>
    obtain ⟨hdebt, hshares, hsum⟩ := (Record.balances_iff hmarket hm).1 hbal
    have hfits := bal.collateral.isLt
    rw [Amount.add_eq_ok.1 hsum] at hfits
    rw [Action.run_bind, run_balancesOf hbal, and_iff_left hfits]
    dsimp only
    rw [Action.run_require_bind_eq_done, and_iff_right (hshares ▸ howes), planPerToken_zero]
    simp only [bind_assoc]
    refine Action.run_bind_done_congr fun supply s₁ hsupply => ?_
    obtain rfl := (supplyOf_yields basket s).done hsupply
    refine Action.run_bind_done_congr fun quantity s₂ hquantity => ?_
    obtain ⟨-, rfl⟩ := (compute_yields _ s₁).done hquantity
    rw [plan_atLeast _ _ _ _ _ bal.borrow, bind_assoc]
    refine Action.run_bind_done_congr fun p s₃ hp => ?_
    obtain ⟨rfl, rfl, hnothing⟩ := (plan_yields d basket _ _ quantity 0 adapterName s₂).done hp
    rw [pure_bind]
    refine Action.run_bind_done_iff (fun _ _ => run_sellCollateral_atLeast hnothing bal.borrow)
      fun sold s₄ hsold => ?_
    obtain ⟨received, fee, net⟩ := sold
    obtain ⟨hnet, hnow, m₀, m₁, m₂, hm₀, haccrued, htotals, hshares₂, hm₂⟩ :=
      (sellCollateral_yields d r p route s₃).done hsold
    obtain rfl : m = m₀ := Option.some.inj (hm.symm.trans hm₀)
    obtain rfl := haccrued.of_settled hsettled
    -- the sale has not moved the debt
    have hdebt₂ : m₂.debtOf p.basket = .ok bal.borrow := by
      rw [Market.debtOf, htotals, hshares₂]
      exact hdebt
    have hsettled₂ : s₄.chain.pool.now ≤ m₂.totals.lastUpdate := by
      rw [hnow, htotals]
      exact hsettled
    rw [← hshares₂] at hshares howes
    rw [hshares]
    simp only [finishDelever_atLeast]
    refine Iff.trans ?_ (settle_iff hmarket hm₂ hsettled₂ hdebt₂ howes hdistinct rfl)
    refine and_iff_right_of_imp fun hdone => ?_
    exact Nat.le_trans (Action.run_require_bind_eq_done.1 hdone).1 hnet

/-- **To delever to zero is to delever with nothing asked for at least**, to report that the debt is
gone, and to have balances that could be told before the sale. -/
theorem deleverToZero_iff (hmarket : r.market = r.params.id)
    (hdistinct : r.params.collateralAsset ≠ r.params.loanAsset)
    (hr : s.records.get? basket = some r)
    (howes : (s.chain.pool.account r.market basket).borrowShares ≠ 0) (d : Desk)
    (caller : Address) (units : Amount) (adapterName : String) (route : Bytes)
    {report : DeleverReport} :
    (deleverToZero caller basket units adapterName route d).run s = .done report s' ↔
      (delever caller basket units 0 adapterName route d).run s = .done report s' ∧
        report.fullyDelevered = true ∧
        (s.chain.tokens.balance r.params.collateralAsset basket).toNat +
          (s.chain.pool.account r.market basket).collateral.toNat < 1 <<< 128 := by
  unfold deleverToZero delever
  refine Action.run_bind_done_congr fun r' s₁ hrecord => ?_
  obtain ⟨rfl, hr'⟩ := (enteredRecord_yields d caller basket s).done hrecord
  obtain rfl : r = r' := Option.some.inj (hr.symm.trans hr')
  refine Action.run_bind_done_congr fun _ s₂ haccrue => ?_
  obtain ⟨b, hrun, rfl⟩ := run_lending_eq_done.1 haccrue
  obtain ⟨m₀, m, hm₀, haccrued, rfl⟩ := (Bank.accrue_spec r.params s₁.chain.toBank).done hrun
  have hm : (s₁.withBank (s₁.chain.toBank.booked r.params m)).chain.pool.markets.get?
      r.params.id = some m := Bank.get?_booked_self
  rw [Record.account_market hmarket hm₀, ← haccrued.account] at howes ⊢
  exact afterAccrual_iff hmarket hm haccrued.settled howes hdistinct d units adapterName route

end Operation

/-- **The two ways down agree.** In a world that can come about let a basket have a debt, in the
market of its record. It can be delevered to zero exactly if it can be delevered with nothing asked
for at least, this reports that the debt is gone, and the basket's collateral in wallet and market
is an amount together. Then both come to the same report and leave the same world. -/
theorem World.Reachable.full_delever_agrees {w : World} (hw : w.Reachable) {basket : Address}
    {r : Record} (hr : w.desk.records.get? basket = some r)
    (howes : (w.chain.pool.account r.market basket).borrowShares ≠ 0) (caller : Address)
    (redeemUnits : Amount) (adapterName : String) (route : Bytes) (report : DeleverReport)
    (w' : World) :
    (World.deleverToZero caller basket redeemUnits adapterName route).run w = .done report w' ↔
      (World.delever caller basket redeemUnits 0 adapterName route).run w = .done report w' ∧
        report.fullyDelevered = true ∧
        (w.chain.tokens.balance r.params.collateralAsset basket).toNat +
          (w.chain.pool.account r.market basket).collateral.toNat < 1 <<< 128 := by
  have hsound := hw.orderly.records basket r hr
  have hsession (s : Session) :
      (Operation.deleverToZero caller basket redeemUnits adapterName route w.desk).run
          ⟨w.chain, w.desk.records, []⟩ = .done report s ↔
        (Operation.delever caller basket redeemUnits 0 adapterName route w.desk).run
          ⟨w.chain, w.desk.records, []⟩ = .done report s ∧ _ :=
    Operation.deleverToZero_iff hsound.market hsound.distinct hr howes w.desk caller redeemUnits
      adapterName route
  rw [World.deleverToZero, World.delever, World.operate_eq_done, World.operate_eq_done]
  constructor
  · rintro ⟨s, desk, hrun, hpublish, hw'⟩
    obtain ⟨hrun, hrest⟩ := (hsession s).1 hrun
    exact ⟨⟨s, desk, hrun, hpublish, hw'⟩, hrest⟩
  · rintro ⟨⟨s, desk, hrun, hpublish, hw'⟩, hrest⟩
    exact ⟨s, desk, (hsession s).2 ⟨hrun, hrest⟩, hpublish, hw'⟩

open Deployment in
/-- The requests after which the basket of the reference deployment has borrowed three of the
smallest units of the loan asset. -/
def owing : List Request :=
  entering ++ [.chain (.pool (.borrow params Deployment.basket (number 3) Deployment.basket))]

open Deployment in
/-- So it is for that basket, and a sale that brings just what it owes. -/
theorem World.full_delever_agrees_of_owing : ∃ w r report w',
    World.runs owing (start .usual) = some w ∧
    w.desk.records.get? Deployment.basket = some r ∧
    (w.chain.pool.account r.market Deployment.basket).borrowShares ≠ 0 ∧
    (World.deleverToZero manager Deployment.basket (number 1_000_000_000) adapterName []).run w =
      .done report w' ∧
    (World.delever manager Deployment.basket (number 1_000_000_000) 0 adapterName []).run w =
      .done report w' ∧
    report.fullyDelevered = true ∧
    (w.chain.tokens.balance r.params.collateralAsset Deployment.basket).toNat +
      (w.chain.pool.account r.market Deployment.basket).collateral.toNat < 1 <<< 128 := by
  have hdelevers : ((World.runs owing (start .usual)).bind fun w =>
      (w.desk.records.get? Deployment.basket).map fun r =>
        decide ((w.chain.pool.account r.market Deployment.basket).borrowShares ≠ 0) &&
          ((World.deleverToZero manager Deployment.basket (number 1_000_000_000) adapterName
            []).run w).isDone) = some true := by decide +kernel
  obtain ⟨w, hw, hdelevers⟩ := Option.bind_eq_some_iff.1 hdelevers
  obtain ⟨r, hr, hdelevers⟩ := Option.map_eq_some_iff.1 hdelevers
  simp only [Bool.and_eq_true, decide_eq_true_eq] at hdelevers
  obtain ⟨howes, hdone⟩ := hdelevers
  obtain ⟨report, w', hdelever⟩ := Outcome.exists_of_isDone hdone
  have hreachable : w.Reachable := ⟨pool, router, feeRecipient, holder, owner, .usual, _, hw⟩
  exact ⟨w, r, report, w', hw, hr, howes, hdelever,
    (World.Reachable.full_delever_agrees hreachable hr howes manager _ adapterName [] report w').1
      hdelever⟩

open Deployment in
/-- The requests after which such a basket's collateral in wallet and market comes to one more than
the largest amount. Somebody has destroyed some of what the market had put aside. -/
def overflowing : List Request :=
  owing ++ ([
    .token (.mint wsteth Deployment.basket
      (number 170_141_183_460_469_231_731_687_303_715_884_105_728)),
    .pool (.supplyCollateral params Deployment.basket
      (number 170_141_183_460_469_231_731_687_303_715_884_105_728)),
    .token (.burn wsteth Deployment.pool Amount.one),
    .token (.mint wsteth Deployment.basket
      (number 170_141_183_460_469_231_730_687_303_715_884_105_728)),
    .basket Deployment.basket (.setSupply (number 10_000_000_000_000_000_000))] :
      List ChainRequest).map .chain

open Deployment in
/-- This basket is delevered until it owes nothing, but it cannot be delevered to zero. -/
theorem World.full_delever_differs_of_overflowing : ∃ w r report w', w.Reachable ∧
    w.desk.records.get? Deployment.basket = some r ∧
    (w.chain.pool.account r.market Deployment.basket).borrowShares ≠ 0 ∧
    (World.delever manager Deployment.basket (number 100_000_000) 0 adapterName []).run w =
      .done report w' ∧
    report.fullyDelevered = true ∧
    (World.deleverToZero manager Deployment.basket (number 100_000_000) adapterName []).run w =
      .refused (.math .overflow) w := by
  have hdelevers : ((World.runs overflowing (start .usual)).bind fun w =>
      (w.desk.records.get? Deployment.basket).map fun r =>
        decide ((w.chain.pool.account r.market Deployment.basket).borrowShares ≠ 0) &&
          ((World.delever manager Deployment.basket (number 100_000_000) 0 adapterName
            []).run w).isDoneWith (fun report _ => report.fullyDelevered) &&
          decide ((World.deleverToZero manager Deployment.basket (number 100_000_000) adapterName
            []).run w = .refused (.math .overflow) w)) = some true := by decide +kernel
  obtain ⟨w, hw, hdelevers⟩ := Option.bind_eq_some_iff.1 hdelevers
  obtain ⟨r, hr, hdelevers⟩ := Option.map_eq_some_iff.1 hdelevers
  simp only [Bool.and_eq_true, decide_eq_true_eq] at hdelevers
  obtain ⟨⟨howes, hdone⟩, hrefused⟩ := hdelevers
  obtain ⟨report, w', hdelever, hfully⟩ := Outcome.exists_of_isDoneWith hdone
  have hreachable : w.Reachable := ⟨pool, router, feeRecipient, holder, owner, .usual, _, hw⟩
  exact ⟨w, r, report, w', hreachable, hr, howes, hdelever, hfully, hrefused⟩

end LeveredBasket.Leverage
