/-
Units with all interest in them.

A unit is written from what the market has in its books. The debt unit is current if
the market is up to date by then, or if the basket owes nothing. Then another
synchronization writes what stands there already, and leaves the ledger as it is
(`World.current_of_inLine`).

Levering and delevering accrue interest first, and so do synchronizing and the hooks
before an issuance or a redemption. Entering
(`LeverageModule::enter_collateral_position`) makes no call that does, so its unit
is current only if there was no interest to come for the basket beforehand
(`World.Reachable.units_current`). A basket can owe something before it is entered:
the pool lends to whoever has collateral there. Then entering leaves its unit behind
(`World.enter_behind_of_borrowing`).
-/
import LeveredBasket.Proofs.Leverage.Liquidation
import LeveredBasket.Proofs.Leverage.Rewriting

set_option autoImplicit false

namespace LeveredBasket

/-- **No interest is to come** for `who` in the market of these parameters: it is up to date, or
`who` owes nothing there. -/
def Lending.Bank.NothingToCome (params : Lending.MarketParams) (who : Address) (b : Lending.Bank) :
    Prop :=
  ∀ m, b.pool.markets.get? params.id = some m →
    b.pool.now ≤ m.totals.lastUpdate ∨ (m.account who).borrowShares = 0

namespace Leverage

open Lending (Bank Market MarketParams)

/-- No interest is to come for the basket in the market that the desk remembers. -/
def World.NothingToCome (w : World) (basket : Address) : Prop :=
  ∀ r, w.desk.records.get? basket = some r →
    w.chain.toBank.NothingToCome r.params basket

/-- **The basket's units are current**: the debt unit is what the basket owes with interest up to
now, and another synchronization leaves every position as it is. -/
structure World.Current (w : World) (basket : Address) : Prop where
  debt : ∃ r b m, w.desk.records.get? basket = some r ∧ w.chain.baskets.get? basket = some b ∧
    w.chain.pool.markets.get? r.params.id = some m ∧
    (b.externalUnit r.params.loanAsset w.desk.address).value.toInt =
      -((m.owedAt w.chain.pool.now basket * Amount.one.toNat) ⌈/⌉ b.supply.toNat : Nat)
  sync : ∀ found w', (World.sync basket).run w = .done found w' →
    w'.chain.baskets = w.chain.baskets

/-! ## Rewriting what stands there -/

/-- Units of one value are the same. -/
theorem unit_eq_of_value {u v : PositionUnit} (h : u.value.toInt = v.value.toInt) : u = v :=
  PositionUnit.ext (IntWord.ext h)

/-- **What is reported of a basket that is in line stands there already.** -/
theorem Record.restate_of_aligned {r : Record} {d : Desk} {b : Basket} {bal : Balances}
    {collateralUnit borrowUnit : PositionUnit} {report : SyncReport}
    (haligned : r.Aligned d.address b bal collateralUnit borrowUnit)
    (hreport : r.report b bal = .ok report) :
    r.restate d.address report b.positions = b.positions := by
  obtain ⟨hholding, hdebt⟩ := Record.units_of_report hreport
  have hloan : Positions.put (.ofExternal r.params.loanAsset d.address report.borrowUnit)
      b.positions = b.positions :=
    Positions.put_of_unit
      (unit_eq_of_value (haligned.debt.trans (PositionUnit.ofDebt_eq_ok hdebt).2.symm))
  unfold Record.restate
  split
  case isTrue hentered =>
    have hcollateral := haligned.collateral hentered
    have hunit := (PositionUnit.ofHolding_eq_ok (hholding hentered)).2
    have hstands : Positions.put (.ofExternal r.params.collateralAsset d.address
        report.collateralUnit) b.positions = b.positions :=
      Positions.put_of_unit (unit_eq_of_value (hcollateral.trans hunit.symm))
    rw [hstands, hloan]
  case isFalse => exact hloan

/-! ## Synchronizing a basket that is in line -/

section Syncs

variable {known : Set MarketParams} {s : Session} {basket : Address} {b : Basket} {r : Record}
variable {d : Desk} {bal : Balances} {collateralUnit borrowUnit : PositionUnit} {w : World}

/-- **Where no interest is to come, interest leaves balances as they are**: nothing is added to the
books, or what is added is owed by others. -/
theorem Record.balances_accrued {c : Chain} {bal' : Balances} {m m' : Market}
    (hmarket : r.market = r.params.id) (hm : c.pool.markets.get? r.params.id = some m)
    (haccrued : m.Accrued c.pool.now m') (hnothing : c.toBank.NothingToCome r.params basket)
    (hbal : r.balances c basket = .ok bal)
    (hbal' : r.balances { c with toBank := c.toBank.booked r.params m' } basket = .ok bal') :
    bal' = bal := by
  have hm' : (c.toBank.booked r.params m').pool.markets.get? r.params.id = some m' :=
    Bank.get?_booked_self
  obtain ⟨hborrow, hshares, hcollateral⟩ := (Record.balances_iff hmarket hm).1 hbal
  obtain ⟨hborrow', hshares', hcollateral'⟩ := (Record.balances_iff hmarket hm').1 hbal'
  rw [haccrued.account basket] at hshares' hcollateral'
  have hdebt : bal'.borrow = bal.borrow := by
    rcases hnothing m hm with hsettled | hnone
    · obtain rfl := haccrued.of_settled hsettled
      exact Except.ok.inj (hborrow'.symm.trans hborrow)
    · have hnone' : (m'.account basket).borrowShares = 0 := by rw [haccrued.account, hnone]
      have hzero := debt_of_no_shares (congrArg Word.toNat hnone) hborrow
      have hzero' := debt_of_no_shares (congrArg Word.toNat hnone') hborrow'
      exact Word.ext (hzero'.trans hzero.symm)
  have hheld : bal'.collateral = bal.collateral :=
    Except.ok.inj (hcollateral'.symm.trans hcollateral)
  cases bal
  cases bal'
  simp_all

/-- **To synchronize a basket that is in line, with no interest to come, changes no position.** -/
theorem syncPositions_of_aligned (hmarket : r.market = r.params.id)
    (hb : s.chain.baskets.get? basket = some b) (hbal : r.balances s.chain basket = .ok bal)
    (haligned : r.Aligned d.address b bal collateralUnit borrowUnit)
    (hnothing : s.chain.toBank.NothingToCome r.params basket) :
    ((Operation.syncPositions d basket r).run s).Yields
      fun _ s' => s'.chain.baskets = s.chain.baskets := by
  refine (Outcome.yields_self _).yields fun found s' hdone => ?_
  obtain ⟨-, -, rfl⟩ | ⟨-, bank, bal', report, haccrue, hbal', hreport, -, rfl⟩ :=
    (Operation.run_syncPositions_eq_done hb).1 hdone
  · rfl
  · obtain ⟨m, m', hm, haccrued, rfl⟩ := (Bank.accrue_spec r.params _).done haccrue
    obtain rfl := Record.balances_accrued hmarket hm haccrued hnothing hbal hbal'
    rw [Record.restate_of_aligned haligned hreport]
    exact FiniteMap.insert_of_get? hb

/-- What a debt comes to where no interest is to come. -/
theorem debt_of_nothingToCome {bank : Bank} {params : MarketParams} {m : Market} {debt : Amount}
    (h : bank.NothingToCome params basket) (hm : bank.pool.markets.get? params.id = some m)
    (hdebt : m.debtOf basket = .ok debt) : debt.toNat = m.owedAt bank.pool.now basket := by
  rcases h m hm with hsettled | hnone
  · exact Market.debtOf_eq_owedAt hsettled hdebt
  · rw [Market.owedAt_of_no_shares hnone]
    exact debt_of_no_shares (congrArg Word.toNat hnone) hdebt

/-- **Units in line are current where no interest is to come.** -/
theorem World.current_of_inLine (hw : w.Orderly known)
    (h : w.InLine basket collateralUnit borrowUnit) (hnothing : w.NothingToCome basket) :
    w.Current basket := by
  obtain ⟨r, b, bal, hr, hb, hdesk, -, haligned⟩ := h
  have hmarket := (hw.records basket r hr).market
  have hbal : r.balances w.chain basket = .ok bal := by simpa [Desk.balances, hr] using hdesk
  constructor
  · obtain ⟨m, hm⟩ := Record.exists_market hmarket hbal
    have hdebt := (Record.balances_market hmarket hm hbal).1
    refine ⟨r, b, m, hr, hb, hm, ?_⟩
    rw [← debt_of_nothingToCome (hnothing r hr) hm hdebt]
    exact haligned.debt
  · intro found w' hrun
    obtain ⟨s, log, hdone, rfl⟩ := World.operate_yields hrun
    have hyields : ((do
        let r ← Operation.recordOf w.desk basket
        Operation.syncPositions w.desk basket r : Operation (Option SyncReport)).run
          ⟨w.chain, w.desk.records, []⟩).Yields
        fun _ s' => s'.chain.baskets = w.chain.baskets := by
      refine Action.yields_bind (Operation.recordOf_yields w.desk basket _) ?_
      rintro r' _ ⟨rfl, hr'⟩
      obtain rfl : r = r' := Option.some.inj (hr.symm.trans hr')
      exact syncPositions_of_aligned hmarket hb hbal haligned (hnothing r hr)
    exact hyields.done hdone

end Syncs

/-! ## Interest that is in -/

section Interest

variable {s : Session} {params : MarketParams} {who basket : Address} {b : Bank} {d : Desk}
variable {r : Record}

theorem nothingToCome_of_secure (h : b.Secure params who) : b.NothingToCome params who := by
  obtain ⟨m, hm, hsettled, -⟩ := h.market
  intro m' hm'
  obtain rfl : m = m' := Option.some.inj (hm.symm.trans hm')
  exact .inl hsettled

theorem nothingToCome_of_settled {m : Market} (hm : b.pool.markets.get? params.id = some m)
    (hsettled : b.pool.now ≤ m.totals.lastUpdate) : b.NothingToCome params who := by
  intro m' hm'
  obtain rfl : m = m' := Option.some.inj (hm.symm.trans hm')
  exact .inl hsettled

/-- **Where units are synchronized, interest is in.** -/
theorem syncPositions_nothingToCome (d : Desk) (basket : Address) (r : Record) (s : Session) :
    ((Operation.syncPositions d basket r).run s).Yields fun found s' =>
      found ≠ none → s'.chain.toBank.NothingToCome r.params basket := by
  refine (Outcome.yields_self _).yields fun found s' hdone hsome => ?_
  obtain ⟨b, hb⟩ := Operation.exists_basket_of_syncPositions hdone
  obtain ⟨-, rfl, -⟩ | ⟨-, bank, bal, report, haccrue, -, -, -, rfl⟩ :=
    (Operation.run_syncPositions_eq_done hb).1 hdone
  · exact absurd rfl hsome
  · obtain ⟨m, m', -, haccrued, rfl⟩ := (Bank.accrue_spec r.params _).done haccrue
    exact nothingToCome_of_settled (m := m') Bank.get?_booked_self haccrued.settled

/-- Collateral is supplied without interest, which is not missed where none is to come. -/
theorem supplyCollateral_nothingToCome (h : b.NothingToCome params who) (amount : Amount) :
    ((Bank.supplyCollateral params who amount).run b).Yields fun _ b' =>
      b'.NothingToCome params who := by
  refine (Bank.supplyCollateral_ends params who amount b).yields ?_
  rintro _ _ ⟨m, m', t, hm, -, htotals, hshares, -, -, rfl⟩ m₁ hm₁
  obtain rfl : m' = m₁ := Option.some.inj (Bank.get?_booked_self.symm.trans hm₁)
  rw [htotals, hshares]
  exact h m hm

/-- **Entering adds no interest**: where none is to come before, none is to come after. -/
theorem enter_nothingToCome (caller basket : Address) (d : Desk)
    (hs : ∀ r, s.records.get? basket = some r → s.chain.toBank.NothingToCome r.params basket) :
    ((Operation.enter caller basket d).run s).Yields fun _ s' =>
      ∀ r, s'.records.get? basket = some r → s'.chain.toBank.NothingToCome r.params basket := by
  refine (Operation.enter_yields caller basket d s).yields ?_
  rintro _ s' ⟨r, notional, -, hr, hsupply, hrecords, -⟩ r' hr'
  -- the record is kept with another mark, but with the same market
  rw [hrecords, FiniteMap.get?_insert_self] at hr'
  obtain rfl := Option.some.inj hr'
  exact (supplyCollateral_nothingToCome (hs r hr) notional).done hsupply

/-- **To synchronize on request brings interest in**, and so do the hooks before an issuance or a
redemption. -/
theorem recordOf_syncPositions_nothingToCome (d : Desk) (basket : Address) (s : Session) :
    ((do
        let r ← Operation.recordOf d basket
        Operation.syncPositions d basket r : Operation (Option SyncReport)).run s).Yields
      fun found s' => found ≠ none → ∃ r, s.records.get? basket = some r ∧
        s'.chain.toBank.NothingToCome r.params basket := by
  refine Action.yields_bind (Operation.recordOf_yields d basket s) ?_
  rintro r _ ⟨rfl, hr⟩
  refine (syncPositions_nothingToCome d basket r _).yields fun found s' hin hsome => ?_
  exact ⟨r, hr, hin hsome⟩

end Interest

/-! ## Operations leave units current -/

section Operations

variable {w w' : World} {basket : Address}

/-- Who has had its debt adjusted has no interest to come. -/
theorem World.Adjusts.current (hw : w.Reachable) (h : w.Adjusts basket w')
    {collateralUnit borrowUnit : PositionUnit}
    (hline : w'.InLine basket collateralUnit borrowUnit) : w'.Current basket := by
  obtain ⟨ho', r, hr, hsecure⟩ := World.Adjusts.secure hw h
  refine World.current_of_inLine ho' hline fun r' hr' => ?_
  obtain rfl : r = r' := Option.some.inj (hr.symm.trans hr')
  exact nothingToCome_of_secure hsecure

/-- So it is for what is synchronized, by an operation that keeps the records. -/
theorem World.current_of_synced (hw : w.Orderly Set.univ)
    {op : Desk → Operation (Option SyncReport)}
    (hconducts : (hw.errand basket).Conducts w.desk.records (op w.desk))
    (hsynced : ((op w.desk).run ⟨w.chain, w.desk.records, []⟩).Yields fun found s' =>
      found ≠ none → ∃ r, w.desk.records.get? basket = some r ∧
        s'.chain.toBank.NothingToCome r.params basket)
    {report : SyncReport} (hrun : (World.operate op).run w = .done (some report) w')
    {collateralUnit borrowUnit : PositionUnit}
    (hline : w'.InLine basket collateralUnit borrowUnit) : w'.Current basket := by
  obtain ⟨ho', hrecords⟩ := World.operate_conducted hw hconducts hrun
  obtain ⟨s, log, hdone, rfl⟩ := World.operate_yields hrun
  obtain ⟨r, hr, hnothing⟩ := hsynced.done hdone (by simp)
  refine World.current_of_inLine ho' hline fun r' hr' => ?_
  rw [hrecords] at hr'
  obtain rfl : r = r' := Option.some.inj (hr.symm.trans hr')
  exact hnothing

/-- **Operations leave units current.** Whenever one of the operations that rewrite positions goes
through, in a world that can come about, however long ago its markets have been brought up to date,
the debt unit has all interest up to now in it, and a synchronization right afterwards changes no
position. Entering is the one exception: it leaves the unit current if no interest was to come for
the basket beforehand. -/
theorem World.Reachable.units_current (hw : w.Reachable) (basket : Address) :
    (∀ caller report, w.NothingToCome basket →
      (World.enter caller basket).run w = .done report w' → w'.Current basket) ∧
    (∀ caller borrowUnits minReceiveUnits adapterName route report,
      (World.lever caller basket borrowUnits minReceiveUnits adapterName route).run w =
        .done report w' → w'.Current basket) ∧
    (∀ caller redeemUnits minRepayUnits adapterName route report,
      (World.delever caller basket redeemUnits minRepayUnits adapterName route).run w =
        .done report w' → w'.Current basket) ∧
    (∀ caller redeemUnits adapterName route report,
      (World.deleverToZero caller basket redeemUnits adapterName route).run w =
        .done report w' → w'.Current basket) ∧
    (∀ report, (World.sync basket).run w = .done (some report) w' → w'.Current basket) ∧
    ∀ caller report, (World.moduleHook caller basket).run w = .done (some report) w' →
      w'.Current basket := by
  have ho := hw.orderly
  have hrecords : SoundRecords (ho.errand basket).known w.desk.records := ho.records
  refine ⟨?_, ?_, ?_, ?_, ?_, ?_⟩
  · intro caller report hnothing hrun
    have hperformed : ((BasketOperation.enter caller).perform basket).run w = .done () w' :=
      Action.run_forget_eq_done.2 ⟨report, hrun⟩
    have ho' := ho.performed hperformed
    have hline := World.enter_inLine ho hrun
    obtain ⟨s, log, hdone, rfl⟩ := World.operate_yields hrun
    exact World.current_of_inLine ho' hline
      ((enter_nothingToCome (s := ⟨w.chain, w.desk.records, []⟩) caller basket w.desk
        hnothing).done hdone)
  · intro caller borrowUnits minReceiveUnits adapterName route report hrun
    have hattains :=
      Errand.attains_lever rfl hrecords caller borrowUnits minReceiveUnits adapterName route
    exact World.Adjusts.current hw (.lever hrun) (Errand.Attains.inLine ho
      (f := LeverReport.collateralUnit) (g := LeverReport.borrowUnit) hattains hrun)
  · intro caller redeemUnits minRepayUnits adapterName route report hrun
    have hattains :=
      Errand.attains_delever rfl hrecords caller redeemUnits minRepayUnits adapterName route
    exact World.Adjusts.current hw (.delever hrun) (Errand.Attains.inLine ho
      (f := DeleverReport.collateralUnit) (g := DeleverReport.borrowUnit) hattains hrun)
  · intro caller redeemUnits adapterName route report hrun
    have hattains := Errand.attains_deleverToZero rfl hrecords caller redeemUnits adapterName route
    exact World.Adjusts.current hw (.deleverToZero hrun) (Errand.Attains.inLine ho
      (f := DeleverReport.collateralUnit) (g := DeleverReport.borrowUnit) hattains hrun)
  · intro report hrun
    have hattains := Errand.attains_sync rfl hrecords
    exact World.current_of_synced ho hattains.leads
      (recordOf_syncPositions_nothingToCome w.desk basket _) hrun
      (Errand.Attains.inLine_some ho hattains hrun)
  · intro caller report hrun
    have hattains := Errand.attains_moduleHook rfl hrecords caller
    refine World.current_of_synced ho hattains.leads ?_ hrun
      (Errand.Attains.inLine_some ho hattains hrun)
    refine Action.yields_bind (Operation.requireIssuer_yields caller basket _) ?_
    rintro _ _ rfl
    exact recordOf_syncPositions_nothingToCome w.desk basket _

end Operations

open Deployment in
/-- The requests after which the basket is enrolled, and has yet to be entered. -/
def enrolling : List Request :=
  furnishing.map .chain ++ [.desk (.basket Deployment.basket (.setAllowed owner true)),
    .desk (.basket Deployment.basket (.enrol manager params))]

open Deployment in
/-- So it is for the basket of the reference deployment, if it is levered once more when interest is
to come, and if it is entered without a debt. -/
theorem World.units_current_of_lapsing : (∃ w w' report m,
    World.runs lapsing (start .usual) = some w ∧
    w.chain.pool.markets.get? params.id = some m ∧ ¬w.chain.pool.now ≤ m.totals.lastUpdate ∧
    (World.lever manager Deployment.basket thousandUsdc 0 adapterName []).run w =
      .done report w' ∧ w'.Current Deployment.basket) ∧
    ∃ w w' report, World.runs enrolling (start .usual) = some w ∧
      w.NothingToCome Deployment.basket ∧
      (World.enter manager Deployment.basket).run w = .done report w' ∧
      w'.Current Deployment.basket := by
  constructor
  · have hlevers : ((World.runs lapsing (start .usual)).bind fun w =>
        (w.chain.pool.markets.get? params.id).map fun m =>
          decide (¬w.chain.pool.now ≤ m.totals.lastUpdate) &&
          ((World.lever manager Deployment.basket thousandUsdc 0 adapterName []).run w).isDone) =
        some true := by decide +kernel
    obtain ⟨w, hw, hlevers⟩ := Option.bind_eq_some_iff.1 hlevers
    obtain ⟨m, hm, hlevers⟩ := Option.map_eq_some_iff.1 hlevers
    simp only [Bool.and_eq_true, decide_eq_true_eq] at hlevers
    obtain ⟨hlate, hdone⟩ := hlevers
    obtain ⟨report, w', hlever⟩ := Outcome.exists_of_isDone hdone
    have hreachable : w.Reachable := ⟨pool, router, feeRecipient, holder, owner, .usual, _, hw⟩
    exact ⟨w, w', report, m, hw, hm, hlate, hlever,
      (World.Reachable.units_current hreachable Deployment.basket).2.1 _ _ _ _ _ _ hlever⟩
  · have henters : ((World.runs enrolling (start .usual)).bind fun w =>
        (w.chain.pool.markets.get? params.id).map fun m =>
          decide ((w.desk.records.get? Deployment.basket).map (·.params) = some params) &&
          decide (w.chain.pool.now ≤ m.totals.lastUpdate) &&
          ((World.enter manager Deployment.basket).run w).isDone) = some true := by decide +kernel
    obtain ⟨w, hw, henters⟩ := Option.bind_eq_some_iff.1 henters
    obtain ⟨m, hm, henters⟩ := Option.map_eq_some_iff.1 henters
    simp only [Bool.and_eq_true, decide_eq_true_eq] at henters
    obtain ⟨⟨hparams, hsettled⟩, hdone⟩ := henters
    obtain ⟨report, w', henter⟩ := Outcome.exists_of_isDone hdone
    have hreachable : w.Reachable := ⟨pool, router, feeRecipient, holder, owner, .usual, _, hw⟩
    have hnothing : w.NothingToCome Deployment.basket := by
      intro r hr
      rw [hr] at hparams
      obtain hsame : r.params = params := Option.some.inj hparams
      rw [hsame]
      exact nothingToCome_of_settled hm hsettled
    exact ⟨w, w', report, hw, hnothing, henter,
      (World.Reachable.units_current hreachable Deployment.basket).1 _ _ hnothing henter⟩

open Deployment in
/-- The requests after which an enrolled basket has borrowed from the market by itself, a thousand
seconds ago. -/
def borrowing : List Request :=
  enrolling ++ ([.token (.mint wsteth Deployment.basket Amount.one),
    .pool (.supplyCollateral params Deployment.basket Amount.one),
    .pool (.borrow params Deployment.basket thousandUsdc Deployment.basket),
    .pool (.setRate params (number 1_000_000_000_000)),
    .pool (.advance (number 1_000))] : List ChainRequest).map .chain

open Deployment in
/-- There the basket is entered with a debt unit of a thousand, and a synchronization right
afterwards makes it a thousand and one. -/
theorem World.enter_behind_of_borrowing : ∃ w w' w'' report found b b',
    World.runs borrowing (start .usual) = some w ∧
    (World.enter manager Deployment.basket).run w = .done report w' ∧
    (World.sync Deployment.basket).run w' = .done found w'' ∧
    w''.chain.pool.now = w'.chain.pool.now ∧
    w'.chain.baskets.get? Deployment.basket = some b ∧
    (b.externalUnit usdc w.desk.address).value.toInt = -1_000_000_000 ∧
    w''.chain.baskets.get? Deployment.basket = some b' ∧
    (b'.externalUnit usdc w.desk.address).value.toInt = -1_001_000_000 ∧
    ¬w'.Current Deployment.basket := by
  have hruns : ((World.runs borrowing (start .usual)).map fun w =>
      ((World.enter manager Deployment.basket).run w).isDoneWith fun _ w' =>
        ((World.sync Deployment.basket).run w').isDoneWith fun _ w'' =>
          decide (w''.chain.pool.now = w'.chain.pool.now) &&
          decide ((w'.chain.baskets.get? Deployment.basket).map (fun b =>
            (b.externalUnit usdc w.desk.address).value.toInt) = some (-1_000_000_000)) &&
          decide ((w''.chain.baskets.get? Deployment.basket).map (fun b =>
            (b.externalUnit usdc w.desk.address).value.toInt) = some (-1_001_000_000))) =
      some true := by decide +kernel
  obtain ⟨w, hw, hruns⟩ := Option.map_eq_some_iff.1 hruns
  obtain ⟨report, w', henter, hruns⟩ := Outcome.exists_of_isDoneWith hruns
  obtain ⟨found, w'', hsync, hunits⟩ := Outcome.exists_of_isDoneWith hruns
  simp only [Bool.and_eq_true, decide_eq_true_eq] at hunits
  obtain ⟨⟨hnow, hbefore⟩, hafter⟩ := hunits
  obtain ⟨b, hb, hunit⟩ := Option.map_eq_some_iff.1 hbefore
  obtain ⟨b', hb', hunit'⟩ := Option.map_eq_some_iff.1 hafter
  refine ⟨w, w', w'', report, found, b, b', hw, henter, hsync, hnow, hb, hunit, hb', hunit', ?_⟩
  intro hcurrent
  -- two units of the same position cannot differ
  rw [hcurrent.sync found w'' hsync, hb] at hb'
  obtain rfl := Option.some.inj hb'
  rw [hunit] at hunit'
  exact absurd hunit' (by decide)

end Leverage

end LeveredBasket
