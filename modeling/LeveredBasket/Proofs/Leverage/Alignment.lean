/-
Operations leave baskets in line.

Seven operations rewrite a basket's positions (`LeverageModule::write_positions`):
entering, levering, delevering, in part or to zero, synchronizing, and the module hooks
of issuance and redemption. Whatever they did to the basket's balances before, each of
them ends with units that are what the balances come to
(`World.Reachable.units_in_line`). What the balances are is said in terms of the chain
itself (`Record.balances_eq_ok`): the wallet and the collateral in the market, and the
debt of the account's shares, rounded up.
-/
import LeveredBasket.Proofs.Leverage.Worlds

set_option autoImplicit false

namespace LeveredBasket.Leverage

/-! ## Balances -/

/-- **What balances are**: the collateral is what the wallet holds and what the market holds for
the basket, and the debt is the worth of the basket's borrow shares, rounded up. -/
structure Record.Backing (r : Record) (c : Chain) (basket : Address) (bal : Balances) : Prop where
  collateral : bal.collateral.toNat =
    (c.tokens.balance r.params.collateralAsset basket).toNat +
      (c.pool.account r.market basket).collateral.toNat
  borrow : ∃ totals, c.pool.totals r.market = .ok totals ∧ bal.borrow.toNat =
    ((c.pool.account r.market basket).borrowShares.toNat * (totals.borrowAssets.toNat + 1)) ⌈/⌉
      (totals.borrowShares.toNat + 1000000)

theorem Record.balances_eq_ok {r : Record} {c : Chain} {basket : Address} {bal : Balances}
    (h : r.balances c basket = .ok bal) : r.Backing c basket bal := by
  obtain ⟨totals, htotals, h⟩ := Except.bind_eq_ok.1 h
  obtain ⟨borrow, hborrow, h⟩ := Except.bind_eq_ok.1 h
  obtain ⟨collateral, hcollateral, h⟩ := Except.bind_eq_ok.1 h
  obtain rfl := Except.ok.inj h
  rw [Except.mapError_eq_ok] at htotals hborrow hcollateral
  exact ⟨Amount.add_eq_ok.1 hcollateral, totals, htotals, Share.toAssets_up_eq_ok hborrow⟩

/-! ## Baskets in line -/

/-- **The basket is in line**: the units on the ledger are what its balances come to, and are the
ones given. -/
def World.InLine (w : World) (basket : Address) (collateralUnit borrowUnit : PositionUnit) :
    Prop :=
  ∃ r b bal, w.desk.records.get? basket = some r ∧ w.chain.baskets.get? basket = some b ∧
    w.desk.balances w.chain basket = .ok bal ∧ r.Backing w.chain basket bal ∧
    r.Aligned w.desk.address b bal collateralUnit borrowUnit

variable {w w' : World} {basket : Address}

/-- A session that ends in line leaves the world in line. -/
theorem World.inLine_of_session {k : Errand} {records : FiniteMap Address Record} {s : Session}
    {collateralUnit borrowUnit : PositionUnit} (hs : k.Follows records s)
    (h : k.InLine records collateralUnit borrowUnit s) (hholder : k.holder = w.desk.address)
    (log : EventLog) :
    World.InLine ⟨s.chain, { w.desk with records := s.records, log := log }⟩ k.basket
      collateralUnit borrowUnit := by
  obtain ⟨r, hr, b, bal, hb, hbal, haligned⟩ := h
  rw [← hs.records] at hr
  refine ⟨r, b, bal, hr, hb, ?_, Record.balances_eq_ok hbal, hholder ▸ haligned⟩
  simpa [Desk.balances, hr] using hbal

/-- What an operation attains in its session it attains in the world. -/
theorem Errand.Attains.operate {known : Set Lending.MarketParams} (hw : w.Orderly known)
    {α : Type} {op : Desk → Operation α} {P : α → Session → Prop} {Q : α → World → Prop}
    (h : (hw.errand basket).Attains w.desk.records P (op w.desk))
    (hPQ : ∀ a s log, (hw.errand basket).Follows w.desk.records s → P a s →
      Q a ⟨s.chain, { w.desk with records := s.records, log := log }⟩)
    {a : α} (hrun : (World.operate op).run w = .done a w') : Q a w' := by
  have hends : ((World.operate op).run w).Ends Q fun _ _ => True := by
    apply ends_operate
    apply (h _ (hw.follows basket)).imp
    · rintro a s ⟨hs, ha⟩ log
      exact hPQ a s log hs ha
    · intro e s _
      trivial
  exact hends.done hrun

theorem Errand.Attains.inLine {known : Set Lending.MarketParams} (hw : w.Orderly known)
    {α : Type} {op : Desk → Operation α} {f g : α → PositionUnit}
    (h : (hw.errand basket).Attains w.desk.records
      (fun a => (hw.errand basket).InLine w.desk.records (f a) (g a)) (op w.desk))
    {a : α} (hrun : (World.operate op).run w = .done a w') : w'.InLine basket (f a) (g a) := by
  apply Errand.Attains.operate hw (Q := fun a w' => w'.InLine basket (f a) (g a)) h _ hrun
  intro a s log hs hline
  exact World.inLine_of_session hs hline rfl log

theorem Errand.Attains.inLine_some {known : Set Lending.MarketParams} (hw : w.Orderly known)
    {op : Desk → Operation (Option SyncReport)}
    (h : (hw.errand basket).Attains w.desk.records
      (fun found s => ∀ report, found = some report →
        (hw.errand basket).InLine w.desk.records report.collateralUnit report.borrowUnit s)
      (op w.desk))
    {report : SyncReport} (hrun : (World.operate op).run w = .done (some report) w') :
    w'.InLine basket report.collateralUnit report.borrowUnit := by
  apply Errand.Attains.operate hw (Q := fun found w' => ∀ report : SyncReport,
    found = some report → w'.InLine basket report.collateralUnit report.borrowUnit) h _ hrun
  · rfl
  · intro found s log hs hline report hfound
    exact World.inLine_of_session hs (hline report hfound) rfl log

theorem World.enter_inLine (hw : w.Orderly Set.univ) {caller : Address} {report : SyncReport}
    (hrun : (World.enter caller basket).run w = .done report w') :
    w'.InLine basket report.collateralUnit report.borrowUnit := by
  have hends : ((World.enter caller basket).run w).Ends
      (fun report w' => w'.InLine basket report.collateralUnit report.borrowUnit)
      fun _ _ => True := by
    apply ends_operate
    apply (Errand.enter_spec rfl hw.records caller (hw.follows basket)).imp
    · -- the records that are remembered afterwards are those with the basket entered
      rintro report s ⟨r, -, hs, hline⟩ log
      exact World.inLine_of_session hs hline rfl log
    · intro e s _
      trivial
  exact hends.done hrun

/-- **Operations leave baskets in line.** Whenever one of the operations that rewrite positions goes
through, in a world that can come about, the basket's units are what its balances come to, and they
are the ones that the operation reports. -/
theorem World.Reachable.units_in_line (hw : w.Reachable) (basket : Address) :
    (∀ caller report, (World.enter caller basket).run w = .done report w' →
      w'.InLine basket report.collateralUnit report.borrowUnit) ∧
    (∀ caller borrowUnits minReceiveUnits adapterName route report,
      (World.lever caller basket borrowUnits minReceiveUnits adapterName route).run w =
        .done report w' → w'.InLine basket report.collateralUnit report.borrowUnit) ∧
    (∀ caller redeemUnits minRepayUnits adapterName route report,
      (World.delever caller basket redeemUnits minRepayUnits adapterName route).run w =
        .done report w' → w'.InLine basket report.collateralUnit report.borrowUnit) ∧
    (∀ caller redeemUnits adapterName route report,
      (World.deleverToZero caller basket redeemUnits adapterName route).run w =
        .done report w' → w'.InLine basket report.collateralUnit report.borrowUnit) ∧
    (∀ report, (World.sync basket).run w = .done (some report) w' →
      w'.InLine basket report.collateralUnit report.borrowUnit) ∧
    ∀ caller report, (World.moduleHook caller basket).run w = .done (some report) w' →
      w'.InLine basket report.collateralUnit report.borrowUnit := by
  have ho := hw.orderly
  have hrecords : SoundRecords (ho.errand basket).known w.desk.records := ho.records
  refine ⟨fun caller report hrun => World.enter_inLine ho hrun, ?_, ?_, ?_, ?_, ?_⟩
  · intro caller borrowUnits minReceiveUnits adapterName route report hrun
    exact Errand.Attains.inLine ho (f := LeverReport.collateralUnit) (g := LeverReport.borrowUnit)
      (Errand.attains_lever rfl hrecords caller borrowUnits minReceiveUnits adapterName route) hrun
  · intro caller redeemUnits minRepayUnits adapterName route report hrun
    exact Errand.Attains.inLine ho (f := DeleverReport.collateralUnit)
      (g := DeleverReport.borrowUnit)
      (Errand.attains_delever rfl hrecords caller redeemUnits minRepayUnits adapterName route) hrun
  · intro caller redeemUnits adapterName route report hrun
    exact Errand.Attains.inLine ho (f := DeleverReport.collateralUnit)
      (g := DeleverReport.borrowUnit)
      (Errand.attains_deleverToZero rfl hrecords caller redeemUnits adapterName route) hrun
  · intro report hrun
    exact Errand.Attains.inLine_some ho (Errand.attains_sync rfl hrecords) hrun
  · intro caller report hrun
    exact Errand.Attains.inLine_some ho (Errand.attains_moduleHook rfl hrecords caller) hrun

open Deployment in
/-- So it is when the basket of the reference deployment is levered. -/
theorem World.units_in_line_of_levering : ∃ w w' report,
    World.runs entering (start .usual) = some w ∧
      (World.lever manager Deployment.basket thousandUsdc 0 adapterName []).run w =
        .done report w' ∧
      w'.InLine Deployment.basket report.collateralUnit report.borrowUnit := by
  have hlevers : ((World.runs entering (start .usual)).map fun w =>
      ((World.lever manager Deployment.basket thousandUsdc 0 adapterName []).run w).isDone) =
      some true := by decide +kernel
  obtain ⟨w, hw, hdone⟩ := Option.map_eq_some_iff.1 hlevers
  obtain ⟨report, w', hlever⟩ := Outcome.exists_of_isDone hdone
  have hreachable : w.Reachable := ⟨pool, router, feeRecipient, holder, owner, .usual, _, hw⟩
  exact ⟨w, w', report, hw, hlever,
    (World.Reachable.units_in_line hreachable Deployment.basket).2.1 _ _ _ _ _ _ hlever⟩

end LeveredBasket.Leverage
