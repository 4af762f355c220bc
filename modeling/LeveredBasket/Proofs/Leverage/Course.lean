/-
The course of a levering or delevering.

Three operations trade (`LeverageModule::lever`, `LeverageModule::delever` and
`LeverageModule::delever_to_zero_borrow_balance`), and they go the same way:
interest is accrued, the pool gives what is to be sent, the trade is made and its
fee taken, and what is left is supplied or repaid before positions are rewritten.
Each step is a call that is read off here once, with what it was called on and what
it has come to (`Levered`, `Sale`, `Finished`), so that a statement about what an
operation has done is one about these calls.

The supply of the basket and the units that it has of its own are not touched on the
way, but for the unit of the loan asset that delevering ends with (`Chain.Owns`).
-/
import LeveredBasket.Proofs.Leverage.Spending
import LeveredBasket.Proofs.Leverage.Symmetry

set_option autoImplicit false

namespace LeveredBasket

open Exchange (Adapter SwapOrder)
open Lending (Bank Market MarketParams Movement)

/-! ## What becomes of a basket -/

/-- The basket has this supply, and these units of its own. -/
structure Chain.Owns (basket : Address) (supply : Amount) (own : Address → PositionUnit)
    (c : Chain) : Prop where
  tidy : c.Tidy
  units : ∃ b, c.baskets.get? basket = some b ∧ b.supply = supply ∧ ∀ x, b.defaultUnit x = own x

/-- **A desk has traded for a basket**: through the adapter that it has under this name, at so many
units for each token of the basket as it stands, and with what the bank has given by then. -/
structure Chain.TradedFor (d : Leverage.Desk) (basket : Address) (units : Amount)
    (adapterName : String) (adapter : Adapter) (b : Basket) (o : SwapOrder)
    (received fee net : Amount) (bank : Bank) (c c' : Chain) (t : TokenBook) : Prop where
  registered : c.registry.adapter d.address adapterName = .ok adapter
  found : c.baskets.get? basket = some b
  quantity : Amount.preciseMul units b.supply = .ok o.sendQuantity
  brokered : Chain.Brokered (c.registry.fee d.address d.settings.feeIndex) basket adapter o
    (c.tokens.balance o.receiveAsset basket) received fee net { c with toBank := bank } c' t

namespace Leverage

/-- **How a basket has been levered.** Interest was accrued, and what is sent was borrowed. What was
left of what has arrived was supplied, if it was anything. What the basket has of its own is as it
was. -/
structure Levered (d : Desk) (basket : Address) (units : Amount) (adapterName : String) (r : Record)
    (m : Market) (adapter : Adapter) (b : Basket) (o : SwapOrder) (report : LeverReport)
    (bank : Bank) (c c₁ : Chain) (t : TokenBook) (c' : Chain) : Prop where
  accrued : (Bank.accrue r.params).run c.toBank = .done () (c.toBank.booked r.params m)
  borrowed : ∃ moved, moved.assets = report.borrowed ∧
    (Bank.borrow r.params basket report.borrowed basket).run (c.toBank.booked r.params m) =
      .done moved bank
  traded : Chain.TradedFor d basket units adapterName adapter b o report.received
    report.protocolFee report.collateralSupplied bank c c₁ t
  supplied : report.collateralSupplied = 0 ∧ c'.toBank = { bank with tokens := t } ∨
    (Bank.supplyCollateral r.params basket report.collateralSupplied).run
      { bank with tokens := t } = .done () c'.toBank
  owns : ∀ supply own, c.Owns basket supply own → c'.Owns basket supply own

/-- **Collateral of a basket has been sold.** Interest was accrued, and what is sent was
withdrawn. -/
structure Sale (d : Desk) (basket : Address) (units : Amount) (adapterName : String) (r : Record)
    (m : Market) (adapter : Adapter) (b : Basket) (o : SwapOrder) (received fee net : Amount)
    (bank : Bank) (c c' : Chain) (t : TokenBook) : Prop where
  accrued : (Bank.accrue r.params).run c.toBank = .done () (c.toBank.booked r.params m)
  withdrawn : (Bank.withdrawCollateral r.params basket o.sendQuantity basket).run
    (c.toBank.booked r.params m) = .done () bank
  traded : Chain.TradedFor d basket units adapterName adapter b o received fee net bank c c' t

/-- **A delevering has come to its end**: of what the basket has of its own the loan asset has been
rewritten, as what is in the wallet, and tokens and pool are as they were. -/
structure Finished (basket loan : Address) (supply : Amount) (c c' : Chain) : Prop where
  bank : c'.toBank = c.toBank
  owns : ∀ own, c.Owns basket supply own → ∃ unit,
    PositionUnit.ofHolding (c.tokens.balance loan basket) supply = .ok unit ∧
    c'.Owns basket supply fun x => if x = loan then unit else own x

end Leverage

/-! ## Calls after accrual -/

namespace Lending.Bank

variable {params : MarketParams} {who receiver : Address} {amount : Amount} {b b' : Bank}
variable {m : Market} {moved : Movement}

/-- Interest is booked in a market that was there. -/
theorem accrued_of_run (h : (accrue params).run b = .done () (b.booked params m)) :
    ∃ m₀, b.pool.markets.get? params.id = some m₀ ∧ m₀.Accrued b.pool.now m := by
  obtain ⟨m₀, m₁, hm₀, haccrued, heq⟩ := (accrue_spec params b).done h
  have hbooked := congrArg (fun b : Bank => b.pool.markets.get? params.id) heq
  simp only [get?_booked_self, Option.some.injEq] at hbooked
  exact ⟨m₀, hm₀, hbooked ▸ haccrued⟩

/-- What is borrowed is what was asked for. -/
theorem borrow_yields (params : MarketParams) (who : Address) (assets : Amount)
    (receiver : Address) (b : Bank) :
    ((borrow params who assets receiver).run b).Yields fun moved _ => moved.assets = assets := by
  simp only [Outcome.Yields, borrow, Action.ends_bind, Action.ends_require, Action.ends_read,
    ends_market, ends_compute, ends_book, Action.run_pure, Outcome.ends_done, implies_true,
    and_true]
  intro _
  refine (Outcome.yields_self _).yields fun _ _ _ => ?_
  -- whatever is computed on the way
  intros
  exact (Outcome.yields_self _).yields fun _ _ _ => trivial

/-- **What is borrowed once interest is in** is owed from then on, and goes to the receiver. -/
theorem borrow_accrued (haccrue : (accrue params).run b = .done () (b.booked params m))
    (h : (borrow params who amount receiver).run (b.booked params m) = .done moved b') :
    ∃ m' t, m.Borrowed who amount m' ∧
      (m'.account who).collateral = (m.account who).collateral ∧
      TokenBook.Transferred params.loanAsset b.pool.address receiver amount b.tokens t ∧
      b' = { b.booked params m' with tokens := t } := by
  obtain ⟨m₀, -, haccrued⟩ := accrued_of_run haccrue
  obtain ⟨m₁, m₂, m', t, hm₁, haccrued₂, hborrowed, -, hcollateral, -, htransferred, rfl⟩ :=
    (borrow_ends params who amount receiver _).done h
  obtain rfl : m = m₁ := Option.some.inj (get?_booked_self.symm.trans hm₁)
  obtain rfl := haccrued₂.of_settled haccrued.settled
  exact ⟨m', t, hborrowed, hcollateral, htransferred,
    congrArg (fun b₁ : Bank => { b₁ with tokens := t }) booked_booked⟩

/-- **What is withdrawn once interest is in** is taken off the collateral, and goes to the
receiver. What is owed stays as it is. -/
theorem withdrawCollateral_accrued
    (haccrue : (accrue params).run b = .done () (b.booked params m))
    (h : (withdrawCollateral params who amount receiver).run (b.booked params m) = .done () b') :
    ∃ m' t, m'.totals = m.totals ∧
      (m'.account who).borrowShares = (m.account who).borrowShares ∧
      (m'.account who).collateral.toNat + amount.toNat = (m.account who).collateral.toNat ∧
      TokenBook.Transferred params.collateralAsset b.pool.address receiver amount b.tokens t ∧
      b' = { b.booked params m' with tokens := t } := by
  obtain ⟨m₀, -, haccrued⟩ := accrued_of_run haccrue
  obtain ⟨m₁, m₂, m', t, hm₁, haccrued₂, -, htotals, hshares, hcollateral, -, htransferred, rfl⟩ :=
    (withdrawCollateral_ends params who amount receiver _).done h
  obtain rfl : m = m₁ := Option.some.inj (get?_booked_self.symm.trans hm₁)
  obtain rfl := haccrued₂.of_settled haccrued.settled
  exact ⟨m', t, htotals, hshares, hcollateral, htransferred,
    congrArg (fun b₁ : Bank => { b₁ with tokens := t }) booked_booked⟩

end Lending.Bank

/-- What a basket owns is a matter of the baskets alone. -/
theorem Chain.Owns.of_baskets {basket : Address} {supply : Amount} {own : Address → PositionUnit}
    {c c' : Chain} (h : c.Owns basket supply own) (hc : c'.baskets = c.baskets) :
    c'.Owns basket supply own := by
  obtain ⟨htidy, hunits⟩ := h
  unfold Chain.Tidy at htidy
  rw [← hc] at htidy hunits
  exact ⟨htidy, hunits⟩

/-- A basket that has been traded for owns what it has. -/
theorem Chain.TradedFor.owns {d : Leverage.Desk} {basket : Address} {units : Amount}
    {adapterName : String} {a : Adapter} {b : Basket} {o : SwapOrder} {received fee net : Amount}
    {bank : Bank} {c c' : Chain} {t : TokenBook}
    (h : Chain.TradedFor d basket units adapterName a b o received fee net bank c c' t)
    (htidy : c.Tidy) : c.Owns basket b.supply b.defaultUnit :=
  ⟨htidy, b, h.found, rfl, fun _ => rfl⟩

namespace Leverage

namespace Operation

variable {basket : Address} {supply : Amount} {own : Address → PositionUnit}

/-! ## Units of a basket's own -/

/-- What a call on the chain keeps of the chain, it keeps in a session. -/
theorem keeps_ledger {α : Type} {I : Chain → Prop} {x : Chain.Call α}
    (hx : x.Keeps I fun _ => True) :
    (ledger x).Keeps (fun s => I s.chain) fun _ => True := by
  intro s hs
  rw [ends_ledger]
  exact hx s.chain hs

/-- A desk's own units are no concern of the basket's own. -/
theorem keepsOwn_writeExternal (d : Desk) (basket component : Address) (unit : PositionUnit) :
    (writeExternal d basket component unit).Keeps
      (fun s => s.chain.Owns basket supply own) fun _ => True := by
  refine .bind (keeps_ledger (Chain.keeps_writePosition ?_)) fun _ => .pure _
  rintro c c' hwrote ⟨htidy, b, hb, hsupply, hown⟩
  obtain ⟨b', hb', hsupply', -, hdefault⟩ := hwrote.external htidy hb
  exact ⟨htidy.wrote hwrote, b', hb', hsupply'.trans hsupply,
    fun x => (hdefault x).trans (hown x)⟩

theorem keepsOwn_writeDebt (d : Desk) (basket : Address) (r : Record) (borrow at' : Amount) :
    (writeDebt d basket r borrow at').Keeps
      (fun s => s.chain.Owns basket supply own) fun _ => True :=
  .bind (.ofExcept fun _ _ => trivial) fun unit =>
    .bind (keepsOwn_writeExternal d basket _ unit) fun _ => .pure _

theorem keepsOwn_writePositions (d : Desk) (basket : Address) (r : Record) (at' : Amount) :
    (writePositions d basket r at').Keeps
      (fun s => s.chain.Owns basket supply own) fun _ => True := by
  refine .bind (fun s hs => ?_) fun balances => ?_
  · rw [ends_balancesOf]
    exact ⟨fun _ _ => hs, fun _ _ => ⟨hs, trivial⟩⟩
  -- whichever the collateral unit is, the debt unit is written after it
  have hrest (unit : PositionUnit) : (do
      let borrowUnit ← writeDebt d basket r balances.borrow at'
      pure ⟨at', unit, borrowUnit, balances.collateral, balances.borrow⟩ :
        Operation SyncReport).Keeps (fun s => s.chain.Owns basket supply own) fun _ => True :=
    .bind (keepsOwn_writeDebt d basket r balances.borrow at') fun _ => .pure _
  refine .ite (fun _ => ?_) fun _ => ?_
  · refine .bind (.ofExcept fun _ _ => trivial) fun unit => ?_
    exact .bind (keepsOwn_writeExternal d basket _ unit) fun _ => .bind (.pure unit) hrest
  · refine .bind (keeps_ledger (Chain.keeps_theBasket basket)) fun b => ?_
    exact .bind (.pure _) hrest

/-- **The end of a delevering** makes what there is of the loan asset the basket's own, and reports
what it is told. -/
theorem finishDelever_finishes (d : Desk) (r : Record) (p : TradePlan)
    (received fee repaid : Amount) (s : Session) :
    ((finishDelever d r p received fee repaid).run s).Yields fun report s' =>
      report.collateralWithdrawn = p.sendQuantity ∧ report.received = received ∧
      report.protocolFee = fee ∧ report.repaid = repaid ∧
      Finished p.basket r.params.loanAsset p.supply s.chain s'.chain := by
  simp only [Outcome.Yields, finishDelever, writeResidual, walletOf, bind_assoc, pure_bind,
    Action.ends_bind, Action.ends_read, ends_compute, implies_true, and_true]
  intro unit hunit
  refine (writeDefault_yields p.basket _ unit s).yields ?_
  rintro _ _ ⟨c, hwrote, rfl⟩
  refine (Outcome.yields_self _).yields fun report s' hpositions => ?_
  have hfinished : Finished p.basket r.params.loanAsset p.supply s.chain s'.chain := by
    have hbank := ((writePositions_yields d p.basket r p.supply _).done hpositions).2.1
    refine ⟨hbank.trans hwrote.toBank, fun own hown => ⟨unit, hunit, ?_⟩⟩
    obtain ⟨htidy, b, hb, hsupply, hdefault⟩ := hown
    obtain ⟨b', hb', hsupply', hdefault', -⟩ := hwrote.default htidy hb
    have howns : c.Owns p.basket p.supply
        fun x => if x = r.params.loanAsset then unit else own x := by
      refine ⟨htidy.wrote hwrote, b', hb', hsupply'.trans hsupply, fun x => ?_⟩
      rw [hdefault', hdefault]
    exact (keepsOwn_writePositions d p.basket r p.supply _ howns).done hpositions
  simp only [emit, Action.ends_modify, Action.ends_ite, Action.run_pure, Outcome.ends_done,
    true_and]
  exact ⟨fun _ => ⟨rfl, rfl, rfl, rfl, hfinished⟩, fun _ => hfinished⟩

/-! ## Courses -/

/-- **Levering** takes its course. -/
theorem lever_course (d : Desk) (caller basket : Address) (units least : Amount)
    (adapterName : String) (route : Bytes) (s : Session) :
    ((Operation.lever caller basket units least adapterName route d).run s).Yields fun report s' =>
      ∃ r m adapter b minimum bank c t, s.records.get? basket = some r ∧
        Amount.preciseMulUp least b.supply = .ok minimum ∧
        Levered d basket units adapterName r m adapter b
          ⟨r.params.loanAsset, r.params.collateralAsset, basket, report.borrowed, minimum, route⟩
          report bank s.chain c t s'.chain := by
  rw [Operation.lever]
  refine Action.yields_bind (enteredRecord_yields d caller basket s) ?_
  rintro r s ⟨rfl, hr⟩
  refine Action.yields_bind (lending_yields _ _) ?_
  rintro _ _ ⟨b₀, haccrue, rfl⟩
  obtain ⟨m₀, m, -, -, rfl⟩ := (Bank.accrue_spec r.params _).done haccrue
  refine Action.yields_bind (planPerToken_made d basket _ _ units least adapterName _) ?_
  rintro p _ ⟨rfl, adapter, b, quantity, minimum, hadapter, hb, hquantity, hminimum, rfl⟩
  refine Action.yields_bind (lending_yields _ _) ?_
  rintro moved _ ⟨bank, hborrow, rfl⟩
  obtain rfl : moved.assets = quantity :=
    (Bank.borrow_yields r.params basket quantity basket _).done hborrow
  refine yields_brokered fun received fee net c t hbrokered => ?_
  -- whatever has been supplied, the positions are rewritten after it
  have hend (s₄ : Session) (hchain : s₄.chain.baskets = s.chain.baskets)
      (hsupplied : net = 0 ∧ s₄.chain.toBank = { bank with tokens := t } ∨
        (Bank.supplyCollateral r.params basket net).run { bank with tokens := t } =
          .done () s₄.chain.toBank) :
      ((writePositions d basket r b.supply).run s₄).Yields fun written s' =>
        Levered d basket units adapterName r m adapter b
          ⟨r.params.loanAsset, r.params.collateralAsset, basket, moved.assets, minimum, route⟩
          ⟨moved.assets, received, fee, net, written.collateralUnit, written.borrowUnit⟩
          bank s.chain c t s'.chain := by
    refine (Outcome.yields_self _).yields fun written s' hpositions => ?_
    have hbank := ((writePositions_yields d basket r b.supply s₄).done hpositions).2.1
    refine ⟨haccrue, ⟨moved, rfl, hborrow⟩, ⟨hadapter, hb, hquantity, hbrokered⟩, ?_, ?_⟩
    · rw [hbank]
      exact hsupplied
    · intro supply own howns
      exact (keepsOwn_writePositions d basket r b.supply s₄ (howns.of_baskets hchain)).done
        hpositions
  refine Action.ends_ite.2 ⟨fun hnothing => ?_, fun _ => ?_⟩
  · exact Action.yields_bind (hend _ rfl (.inl ⟨hnothing, rfl⟩)) fun _ _ h =>
      ⟨r, m, adapter, b, minimum, bank, c, t, hr, hminimum, h⟩
  · refine Action.yields_bind (lending_yields _ _) ?_
    rintro _ _ ⟨bank', hsupply, rfl⟩
    exact Action.yields_bind (hend _ rfl (.inr hsupply)) fun _ _ h =>
      ⟨r, m, adapter, b, minimum, bank, c, t, hr, hminimum, h⟩

/-- **To sell collateral once interest is in** is a sale. -/
theorem sellCollateral_sells {d : Desk} {basket : Address} {units : Amount} {adapterName : String}
    {r : Record} {m : Market} {adapter : Adapter} {b : Basket} {quantity minimum : Amount}
    {route : Bytes} {s : Session}
    (haccrue : (Bank.accrue r.params).run s.chain.toBank =
      .done () (s.chain.toBank.booked r.params m))
    (hadapter : s.chain.registry.adapter d.address adapterName = .ok adapter)
    (hb : s.chain.baskets.get? basket = some b)
    (hquantity : Amount.preciseMul units b.supply = .ok quantity) :
    ((sellCollateral d r ⟨basket, adapterName, adapter, r.params.collateralAsset,
        r.params.loanAsset, b.supply, quantity, minimum,
        s.chain.tokens.balance r.params.loanAsset basket⟩ route).run
      (s.withBank (s.chain.toBank.booked r.params m))).Yields fun sold s' => ∃ bank c t,
        Sale d basket units adapterName r m adapter b
          ⟨r.params.collateralAsset, r.params.loanAsset, basket, quantity, minimum, route⟩
          sold.1 sold.2.1 sold.2.2 bank s.chain c t ∧
        s' = s.withBank { bank with tokens := t } := by
  rw [sellCollateral]
  refine Action.yields_bind (lending_yields _ _) ?_
  rintro _ _ ⟨bank, hwithdraw, rfl⟩
  refine yields_brokered fun received fee net c t hbrokered => ?_
  exact ⟨bank, c, t, ⟨haccrue, hwithdraw, hadapter, hb, hquantity, hbrokered⟩, rfl⟩

/-- **Delevering** takes its course: a sale, a capped repayment out of what is left, and the end. -/
theorem delever_course (d : Desk) (caller basket : Address) (units least : Amount)
    (adapterName : String) (route : Bytes) (s : Session) :
    ((Operation.delever caller basket units least adapterName route d).run s).Yields
      fun report s' => ∃ r m adapter b minimum net bank c t s₁, s.records.get? basket = some r ∧
        Amount.preciseMulUp least b.supply = .ok minimum ∧
        Sale d basket units adapterName r m adapter b ⟨r.params.collateralAsset,
            r.params.loanAsset, basket, report.collateralWithdrawn, minimum, route⟩
          report.received report.protocolFee net bank s.chain c t ∧
        (repayCapped r basket net).run (s.withBank { bank with tokens := t }) =
          .done report.repaid s₁ ∧
        Finished basket r.params.loanAsset b.supply s₁.chain s'.chain := by
  rw [Operation.delever]
  refine Action.yields_bind (enteredRecord_yields d caller basket s) ?_
  rintro r s ⟨rfl, hr⟩
  refine Action.yields_bind (lending_yields _ _) ?_
  rintro _ _ ⟨b₀, haccrue, rfl⟩
  obtain ⟨m₀, m, -, -, rfl⟩ := (Bank.accrue_spec r.params _).done haccrue
  refine Action.yields_bind (planPerToken_made d basket _ _ units least adapterName _) ?_
  rintro p _ ⟨rfl, adapter, b, quantity, minimum, hadapter, hb, hquantity, hminimum, rfl⟩
  refine Action.yields_bind (sellCollateral_sells haccrue hadapter hb hquantity) ?_
  rintro ⟨received, fee, net⟩ _ ⟨bank, c, t, hsale, rfl⟩
  refine Action.yields_bind (Outcome.yields_self _) fun repaid s₁ hrepay => ?_
  refine (finishDelever_finishes d r _ received fee repaid s₁).yields ?_
  rintro report s' ⟨rfl, rfl, rfl, rfl, hfinished⟩
  exact ⟨r, m, adapter, b, minimum, net, bank, c, t, s₁, hr, hminimum, hsale, hrepay, hfinished⟩

/-- **Delevering to zero** takes its course: a sale that has to bring the debt, the repayment of all
shares, and the end. -/
theorem deleverToZero_course (d : Desk) (caller basket : Address) (units : Amount)
    (adapterName : String) (route : Bytes) (s : Session) :
    ((Operation.deleverToZero caller basket units adapterName route d).run s).Yields
      fun report s' => ∃ r m bal adapter b net bank c t moved bank',
        s.records.get? basket = some r ∧
        r.balances (s.withBank (s.chain.toBank.booked r.params m)).chain basket = .ok bal ∧
        Sale d basket units adapterName r m adapter b ⟨r.params.collateralAsset,
            r.params.loanAsset, basket, report.collateralWithdrawn, bal.borrow, route⟩
          report.received report.protocolFee net bank s.chain c t ∧
        bal.borrow.toNat ≤ net.toNat ∧ report.repaid = moved.assets ∧
        (Bank.repay r.params basket (.shares bal.borrowShares)).run { bank with tokens := t } =
          .done moved bank' ∧
        Finished basket r.params.loanAsset b.supply { s.chain with toBank := bank' } s'.chain := by
  rw [Operation.deleverToZero]
  refine Action.yields_bind (enteredRecord_yields d caller basket s) ?_
  rintro r s ⟨rfl, hr⟩
  refine Action.yields_bind (lending_yields _ _) ?_
  rintro _ _ ⟨b₀, haccrue, rfl⟩
  obtain ⟨m₀, m, -, -, rfl⟩ := (Bank.accrue_spec r.params _).done haccrue
  rw [Outcome.Yields, Action.ends_bind, ends_balancesOf]
  refine ⟨fun bal hbal => ?_, fun _ _ => trivial⟩
  rw [Action.ends_bind, Action.ends_require]
  refine ⟨fun _ => ?_, fun _ => trivial⟩
  rw [Action.ends_bind, ends_supplyOf]
  refine ⟨fun b hb => ?_, fun _ => trivial⟩
  refine Action.yields_bind (compute_yields _ _) ?_
  rintro quantity _ ⟨hquantity, rfl⟩
  refine Action.yields_bind (plan_made d basket _ _ quantity bal.borrow adapterName _) ?_
  rintro p _ ⟨rfl, adapter, b', hadapter, hb', rfl⟩
  obtain rfl := Option.some.inj (hb.symm.trans hb')
  refine Action.yields_bind (sellCollateral_sells haccrue hadapter hb hquantity) ?_
  rintro ⟨received, fee, net⟩ _ ⟨bank, c, t, hsale, rfl⟩
  rw [Outcome.Yields, Action.ends_bind, Action.ends_require]
  refine ⟨fun hcovered => ?_, fun _ => trivial⟩
  refine Action.yields_bind (lending_yields _ _) ?_
  rintro moved _ ⟨bank', hrepay, rfl⟩
  refine (finishDelever_finishes d r _ received fee moved.assets _).yields ?_
  rintro report s' ⟨rfl, rfl, rfl, hrepaid, hfinished⟩
  exact ⟨r, m, bal, adapter, b, net, bank, c, t, moved, bank', hr, hbal, hsale, hcovered, hrepaid,
    hrepay, hfinished⟩

end Operation

/-- **What levering has done to the bank**: the basket has borrowed what was sent, and what was left
of what has arrived is its collateral in the market. -/
theorem Levered.banked {d : Desk} {basket : Address} {units : Amount} {adapterName : String}
    {r : Record} {m : Market} {adapter : Adapter} {b : Basket} {o : SwapOrder}
    {report : LeverReport} {bank : Bank} {c c₁ c' : Chain} {t : TokenBook}
    (h : Levered d basket units adapterName r m adapter b o report bank c c₁ t c') :
    ∃ m₁ m₂ t₁, m.Borrowed basket report.borrowed m₁ ∧
      (m₂.account basket).borrowShares = (m₁.account basket).borrowShares ∧
      (m₂.account basket).collateral.toNat =
        (m.account basket).collateral.toNat + report.collateralSupplied.toNat ∧
      TokenBook.Transferred r.params.loanAsset c.pool.address basket report.borrowed c.tokens t₁ ∧
      bank = { c.toBank.booked r.params m₁ with tokens := t₁ } ∧
      TokenBook.Transferred r.params.collateralAsset basket c.pool.address
        report.collateralSupplied t c'.tokens ∧
      c'.pool.markets.get? r.params.id = some m₂ := by
  obtain ⟨moved, -, hborrow⟩ := h.borrowed
  obtain ⟨m₁, t₁, hborrowed, hcollateral, hgiven, rfl⟩ := Bank.borrow_accrued h.accrued hborrow
  rw [← hcollateral]
  obtain ⟨hnone, hbank⟩ | hsupply := h.supplied
  · refine ⟨m₁, m₁, t₁, hborrowed, rfl, ?_, hgiven, rfl, ?_, ?_⟩
    · rw [hnone]
      rfl
    · rw [hnone, hbank]
      exact .none _ _ _ _
    · rw [hbank]
      exact Bank.get?_booked_self
  · obtain ⟨m₀, m₂, t₂, hm₀, -, -, hshares, hmore, hpaid, hbank⟩ :=
      (Bank.supplyCollateral_ends r.params basket _ _).done hsupply
    obtain rfl : m₁ = m₀ := Option.some.inj (Bank.get?_booked_self.symm.trans hm₀)
    refine ⟨m₁, m₂, t₁, hborrowed, hshares, hmore, hgiven, rfl, ?_, ?_⟩
    · rw [hbank]
      exact hpaid
    · rw [hbank]
      exact Bank.get?_booked_self

section Sale

variable {d : Desk} {basket : Address} {units : Amount} {adapterName : String} {r : Record}
variable {m : Market} {adapter : Adapter} {b : Basket} {o : SwapOrder} {received fee net : Amount}
variable {bank : Bank} {c c' : Chain} {t : TokenBook}

/-- **What a sale has taken out of the market**: collateral of the basket, and nothing of what is
owed. The market is up to date with it. -/
theorem Sale.withdrew
    (h : Sale d basket units adapterName r m adapter b o received fee net bank c c' t) :
    ∃ m' t₁, m'.totals = m.totals ∧ c.pool.now ≤ m'.totals.lastUpdate ∧
      (m'.account basket).borrowShares = (m.account basket).borrowShares ∧
      (m'.account basket).collateral.toNat + o.sendQuantity.toNat =
        (m.account basket).collateral.toNat ∧
      TokenBook.Transferred r.params.collateralAsset c.pool.address basket o.sendQuantity c.tokens
        t₁ ∧
      bank = { c.toBank.booked r.params m' with tokens := t₁ } := by
  obtain ⟨m₀, -, haccrued⟩ := Bank.accrued_of_run h.accrued
  obtain ⟨m', t₁, htotals, hshares, hcollateral, hgiven, hbank⟩ :=
    Bank.withdrawCollateral_accrued h.accrued h.withdrawn
  exact ⟨m', t₁, htotals, htotals ▸ haccrued.settled, hshares, hcollateral, hgiven, hbank⟩

/-- Of other assets the pool gives nothing. -/
theorem Sale.balance_of_ne
    (h : Sale d basket units adapterName r m adapter b o received fee net bank c c' t)
    {asset : Address} (hne : asset ≠ r.params.collateralAsset) :
    bank.tokens.balance asset basket = c.tokens.balance asset basket := by
  obtain ⟨m', t₁, -, -, -, -, hgiven, rfl⟩ := h.withdrew
  exact hgiven.balance_of_ne hne basket

/-- **A capped repayment after a sale** takes the smaller of the debt, as it was before the sale,
and what it may take. It clears the debt just if it may take all of it. -/
theorem Sale.repays {s s' : Session} {available repaid : Amount}
    (h : Sale d basket units adapterName r m adapter b o received fee net bank s.chain c' t)
    (hmarket : r.market = r.params.id)
    (hrepay : (Operation.repayCapped r basket available).run
      (s.withBank { bank with tokens := t }) = .done repaid s') :
    ∃ debt m' t', m.debtOf basket = .ok debt ∧ repaid.toNat = min debt.toNat available.toNat ∧
      ((m'.account basket).borrowShares = 0 ↔ debt.toNat ≤ available.toNat) ∧
      (m'.account basket).collateral.toNat + o.sendQuantity.toNat =
        (m.account basket).collateral.toNat ∧
      TokenBook.Transferred r.params.loanAsset basket s.chain.pool.address repaid t t' ∧
      s' = s.withBank { s.chain.toBank.booked r.params m' with tokens := t' } := by
  obtain ⟨m₁, t₁, htotals, hsettled, hshares, hcollateral, -, rfl⟩ := h.withdrew
  have hm₁ : (s.withBank { { s.chain.toBank.booked r.params m₁ with tokens := t₁ } with
      tokens := t }).chain.pool.markets.get? r.params.id = some m₁ := Bank.get?_booked_self
  obtain ⟨debt, m', t', hdebt, hmin, hmoved, hcollateral', htransferred, rfl⟩ :=
    (Operation.repayCapped_pays hmarket hm₁ hsettled available).done hrepay
  refine ⟨debt, m', t', ?_, hmin, ?_, hcollateral' ▸ hcollateral, htransferred, ?_⟩
  · rw [Market.debtOf, htotals, hshares] at hdebt
    exact hdebt
  · by_cases howes : (m₁.account basket).borrowShares = 0
    · -- who owes nothing has no debt to clear
      have hnone := debt_of_no_shares (congrArg Word.toNat howes) hdebt
      obtain ⟨-, rfl⟩ | ⟨amount, moved, -, hrepaid, -⟩ := hmoved
      · exact iff_of_true howes (by omega)
      · have hleft := hrepaid.account
        rw [howes, Word.toNat_zero] at hleft
        exact iff_of_true (Word.ext (by rw [Word.toNat_zero]; omega)) (by omega)
    · have hcleared := Operation.repayCapped_clears hmarket hm₁ hsettled hdebt howes hrepay
      rw [Record.account_market hmarket Bank.get?_booked_self] at hcleared
      exact hcleared
  · exact congrArg s.withBank (congrArg (fun b₁ : Bank => { b₁ with tokens := t' })
      Bank.booked_booked)

/-- **To repay all shares after a sale** is to pay the debt, as it was before the sale. -/
theorem Sale.repaysAll {debt : Amount} {moved : Movement} {bank' : Bank}
    (h : Sale d basket units adapterName r m adapter b o received fee net bank c c' t)
    (hdebt : m.debtOf basket = .ok debt)
    (hrepay : (Bank.repay r.params basket (.shares (m.account basket).borrowShares)).run
      { bank with tokens := t } = .done moved bank') :
    moved.assets = debt ∧
      TokenBook.Transferred r.params.loanAsset basket c.pool.address moved.assets t
        bank'.tokens := by
  obtain ⟨m₁, t₁, htotals, hsettled, -, -, -, rfl⟩ := h.withdrew
  have hm₁ : ({ c.toBank.booked r.params m₁ with tokens := t } : Bank).pool.markets.get?
      r.params.id = some m₁ := Bank.get?_booked_self
  obtain ⟨m', t', hrepaid, -, htransferred, rfl⟩ := Bank.repay_settled hm₁ hsettled hrepay
  have hcost := (Bank.movementOf_shares hrepaid.price).2
  rw [htotals] at hcost
  exact ⟨Except.ok.inj (hcost.symm.trans hdebt), htransferred⟩

end Sale

/-- What a delevering ends with is that the basket's own unit of the loan asset is the wallet. -/
theorem Finished.unit {basket loan : Address} {supply : Amount} {own : Address → PositionUnit}
    {c c' : Chain} (h : Finished basket loan supply c c') (howns : c.Owns basket supply own) :
    ∃ b, c'.baskets.get? basket = some b ∧ b.supply = supply ∧ (b.defaultUnit loan).value.toInt =
      ((c'.tokens.balance loan basket).toNat * Amount.one.toNat / supply.toNat : Nat) := by
  obtain ⟨unit, hunit, howns'⟩ := h.owns own howns
  obtain ⟨b, hb, hsupply, hown⟩ := howns'.units
  have htokens : c'.tokens = c.tokens := congrArg Bank.tokens h.bank
  refine ⟨b, hb, hsupply, ?_⟩
  rw [hown, if_pos rfl, htokens]
  exact (PositionUnit.ofHolding_eq_ok hunit).2

end Leverage

end LeveredBasket
