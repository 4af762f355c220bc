/-
The accounts of a levering (`LeverageModule::lever`) and of a delevering
(`LeverageModule::delever`, `LeverageModule::delever_to_zero_borrow_balance`).

With an adapter of the venue that there is, an operation that trades comes down to
five movements of tokens: out of the pool, to the venue, out of the venue, to the
fee recipient, and back into the pool. For any asset and any holder they are put
into one equation, with what is taken on the one side and what is given on the
other (`Levered.ledger`, `Sale.ledger`), so that a holder who takes part in more
than one of them needs no case of his own. Where all who take part are different,
each of the accounts is read off it.

The market counts in shares what is owed. A levering adds what the borrowing costs,
rounded up; a delevering repays what the sale has brought, or the debt.
-/
import LeveredBasket.Proofs.Leverage.Course

set_option autoImplicit false

namespace LeveredBasket

open Exchange (Adapter SwapOrder Venue)
open Lending (Bank Market)

/-- **The books of a trade and its fee**, for every asset and every holder: what was sent is with
the router, what was received was made for it, and of that the fee is with its recipient. -/
structure TokenBook.Accounted (basket router recipient : Address) (o : SwapOrder)
    (received fee : Amount) (b b' : TokenBook) : Prop where
  balance : ∀ a x, (b'.balance a x).toNat +
      countIf (a = o.sendAsset ∧ x = basket) o.sendQuantity.toNat +
      countIf (a = o.receiveAsset ∧ x = basket) fee.toNat =
    (b.balance a x).toNat + countIf (a = o.sendAsset ∧ x = router) o.sendQuantity.toNat +
      countIf (a = o.receiveAsset ∧ x = basket) received.toNat +
      countIf (a = o.receiveAsset ∧ x = recipient) fee.toNat
  supply : ∀ a, (b'.supply a).toNat =
    (b.supply a).toNat + countIf (a = o.receiveAsset) received.toNat

namespace Leverage

/-- **The accounts of a levering** at a rate of the venue. The market lends what is borrowed, the
venue makes the collateral for it, the protocol takes its fee, and the market has the rest of it
for the basket, which owes shares for what was borrowed in a market with interest up to now. -/
structure LeverAccounts (basket : Address) (r : Record) (supply units : Amount)
    (rate : Amount × Amount) (bps : BasisPoints) (m : Market) (report : LeverReport)
    (c c' : Chain) : Prop where
  borrowed : report.borrowed.toNat = units.toNat * supply.toNat / Amount.one.toNat
  received : report.received.toNat = report.borrowed.toNat * rate.1.toNat / rate.2.toNat
  fee : report.protocolFee.toNat = report.received.toNat * bps.value.toNat / 10_000
  net : report.collateralSupplied.toNat + report.protocolFee.toNat = report.received.toNat
  marketLoan : (c'.tokens.balance r.params.loanAsset c.pool.address).toNat +
    report.borrowed.toNat = (c.tokens.balance r.params.loanAsset c.pool.address).toNat
  routerLoan : (c'.tokens.balance r.params.loanAsset c.venue.router).toNat =
    (c.tokens.balance r.params.loanAsset c.venue.router).toNat + report.borrowed.toNat
  recipientCollateral :
    (c'.tokens.balance r.params.collateralAsset c.registry.feeRecipient).toNat =
      (c.tokens.balance r.params.collateralAsset c.registry.feeRecipient).toNat +
        report.protocolFee.toNat
  marketCollateral : (c'.tokens.balance r.params.collateralAsset c.pool.address).toNat =
    (c.tokens.balance r.params.collateralAsset c.pool.address).toNat +
      report.collateralSupplied.toNat
  collateralSupply : (c'.tokens.supply r.params.collateralAsset).toNat =
    (c.tokens.supply r.params.collateralAsset).toNat + report.received.toNat
  walletLoan : c'.tokens.balance r.params.loanAsset basket =
    c.tokens.balance r.params.loanAsset basket
  walletCollateral : c'.tokens.balance r.params.collateralAsset basket =
    c.tokens.balance r.params.collateralAsset basket
  shares : (c'.pool.account r.market basket).borrowShares.toNat =
    (c.pool.account r.market basket).borrowShares.toNat +
      (report.borrowed.toNat * (m.totals.borrowShares.toNat + 1000000)) ⌈/⌉
        (m.totals.borrowAssets.toNat + 1)
  collateral : (c'.pool.account r.market basket).collateral.toNat =
    (c.pool.account r.market basket).collateral.toNat + report.collateralSupplied.toNat
  allowance : c'.tokens.allowance r.params.loanAsset basket c.venue.router = 0

/-- **The accounts of a delevering** at a rate of the venue, where the basket owes `debt` with
interest up to now. The market gives back collateral, the venue makes the loan asset for it, the
protocol takes its fee, and the rest of it repays the debt as far as it goes. What there is of the
loan asset in the wallet then is the basket's own. -/
structure DeleverAccounts (basket : Address) (r : Record) (supply units : Amount)
    (rate : Amount × Amount) (bps : BasisPoints) (debt : Amount) (report : DeleverReport)
    (c c' : Chain) : Prop where
  withdrawn : report.collateralWithdrawn.toNat = units.toNat * supply.toNat / Amount.one.toNat
  received : report.received.toNat =
    report.collateralWithdrawn.toNat * rate.1.toNat / rate.2.toNat
  fee : report.protocolFee.toNat = report.received.toNat * bps.value.toNat / 10_000
  fee_le : report.protocolFee.toNat ≤ report.received.toNat
  repaid : report.repaid.toNat =
    min (report.received.toNat - report.protocolFee.toNat) debt.toNat
  collateral : (c'.pool.account r.market basket).collateral.toNat +
    report.collateralWithdrawn.toNat = (c.pool.account r.market basket).collateral.toNat
  walletCollateral : c'.tokens.balance r.params.collateralAsset basket =
    c.tokens.balance r.params.collateralAsset basket
  recipientLoan : (c'.tokens.balance r.params.loanAsset c.registry.feeRecipient).toNat =
    (c.tokens.balance r.params.loanAsset c.registry.feeRecipient).toNat + report.protocolFee.toNat
  marketLoan : (c'.tokens.balance r.params.loanAsset c.pool.address).toNat =
    (c.tokens.balance r.params.loanAsset c.pool.address).toNat + report.repaid.toNat
  walletLoan : (c'.tokens.balance r.params.loanAsset basket).toNat =
    (c.tokens.balance r.params.loanAsset basket).toNat +
      (report.received.toNat - report.protocolFee.toNat - report.repaid.toNat)
  unit : ∃ b, c'.baskets.get? basket = some b ∧ b.supply = supply ∧
    (b.defaultUnit r.params.loanAsset).value.toInt =
      ((c'.tokens.balance r.params.loanAsset basket).toNat * Amount.one.toNat / supply.toNat : Nat)
  cleared : (c'.pool.account r.market basket).borrowShares = 0 ↔
    debt.toNat ≤ report.received.toNat - report.protocolFee.toNat

end Leverage

/-! ## Trades (`LeverageModule::execute_trade`) -/

/-- A quote is at the rate of the pair, rounded down. -/
theorem Exchange.Venue.quote_eq_ok {v : Venue} {send receive : Address} {quantity out : Amount}
    (h : v.quote send receive quantity = .ok out) : ∃ rate,
      v.rates.get? (send, receive) = some rate ∧ 0 < rate.2.toNat ∧
      out.toNat = quantity.toNat * rate.1.toNat / rate.2.toNat := by
  unfold quote at h
  split at h
  case h_1 => cases h
  case h_2 rate hrate =>
    rw [Except.mapError_eq_ok, Amount.mulDivDown_eq_ok] at h
    exact ⟨rate, hrate, h⟩

section Brokered

variable {rate : BasisPoints} {basket router spender : Address} {o : SwapOrder}
variable {before received fee net : Amount} {c c' : Chain} {t : TokenBook}

/-- **A trade that was made as it was ordered** has brought what the venue quotes, and its books are
as they should be. -/
theorem Chain.Brokered.accounted
    (h : Chain.Brokered rate basket (.writesOrder router spender) o before received fee net c c' t)
    (hrecipient : o.recipient = basket)
    (hbefore : before = c.tokens.balance o.receiveAsset basket) :
    router = c.venue.router ∧
      c.venue.quote o.sendAsset o.receiveAsset o.sendQuantity = .ok received ∧
      TokenBook.Accounted basket router c.registry.feeRecipient o received fee c.tokens t := by
  obtain ⟨hne, hrouter, out, t₁, hout, hswapped, rfl⟩ := h.exchanged.written
  have hswap (a x : Address) := hswapped.balance a x
  simp only [TokenBook.balance_approve, hrecipient] at hswap
  -- of what is received nothing is sent, so the wallet has it all when it is looked at
  have hreceived : received = out := by
    have harrived := congrArg Word.toNat h.arrived
    change received.toNat = (t₁.balance o.receiveAsset basket).toNat - before.toNat at harrived
    have hwallet := hswap o.receiveAsset basket
    rw [countIf_neg fun h => hne h.1.symm, countIf_neg fun h => hne h.1.symm,
      countIf_pos ⟨rfl, rfl⟩, ← hbefore] at hwallet
    exact Word.ext (by omega)
  rw [← hreceived] at hswap hout
  refine ⟨hrouter, hout, fun a x => ?_, fun a => ?_⟩
  · have hcharged := h.charged.balance a x
    change (t.balance a x).toNat + _ = (t₁.balance a x).toNat + _ at hcharged
    have hbalance := hswap a x
    omega
  · have hsupply := hswapped.supply a
    rw [TokenBook.supply_approve, ← hreceived] at hsupply
    rw [h.charged.supply]
    exact hsupply

/-- The adapter of a venue spends all that it is allowed. -/
theorem Chain.Brokered.allowance
    (h : Chain.Brokered rate basket (.fixedRate router) o before received fee net c c' t) :
    t.allowance o.sendAsset basket router = 0 := by
  obtain ⟨-, -, out, t₁, -, hswapped, rfl⟩ := h.exchanged.written
  rw [h.charged.allowance]
  change t₁.allowance o.sendAsset basket router = 0
  rw [hswapped.allowance, if_pos ⟨rfl, rfl⟩, TokenBook.allowance_approve, if_pos ⟨rfl, rfl⟩]
  exact Bank.truncatedSub_eq_zero.2 (Nat.le_refl _)

end Brokered

namespace Leverage

/-! ## Up (`LeverageModule::lever`) -/

section Levered

variable {d : Desk} {basket router spender : Address} {units minimum : Amount}
variable {adapterName : String} {route : Bytes} {r : Record} {m : Market} {b : Basket}
variable {report : LeverReport} {bank : Bank} {c c₁ c' : Chain} {t : TokenBook}

/-- **All that a levering moves**, of any asset and for any holder. The basket hands on what it is
given, so it is not among those who have more or less. -/
theorem Levered.ledger (hdistinct : r.params.collateralAsset ≠ r.params.loanAsset)
    (h : Levered d basket units adapterName r m (.writesOrder router spender) b
      ⟨r.params.loanAsset, r.params.collateralAsset, basket, report.borrowed, minimum, route⟩
      report bank c c₁ t c') :
    router = c.venue.router ∧
      c.venue.quote r.params.loanAsset r.params.collateralAsset report.borrowed =
        .ok report.received ∧
      (∀ a x, (c'.tokens.balance a x).toNat +
          countIf (a = r.params.loanAsset ∧ x = c.pool.address) report.borrowed.toNat =
        (c.tokens.balance a x).toNat +
          countIf (a = r.params.loanAsset ∧ x = router) report.borrowed.toNat +
          countIf (a = r.params.collateralAsset ∧ x = c.registry.feeRecipient)
            report.protocolFee.toNat +
          countIf (a = r.params.collateralAsset ∧ x = c.pool.address)
            report.collateralSupplied.toNat) ∧
      ∀ a, (c'.tokens.supply a).toNat =
        (c.tokens.supply a).toNat +
          countIf (a = r.params.collateralAsset) report.received.toNat := by
  obtain ⟨m₁, m₂, t₁, -, -, -, hgiven, rfl, hpaid, -⟩ := h.banked
  obtain ⟨hrouter, hquote, htraded⟩ := h.traded.brokered.accounted rfl
    (hgiven.balance_of_ne hdistinct basket).symm
  refine ⟨hrouter, hquote, fun a x => ?_, fun a => ?_⟩
  · have hborrowed := hgiven.balance a x
    have hbooks : (t.balance a x).toNat +
        countIf (a = r.params.loanAsset ∧ x = basket) report.borrowed.toNat +
        countIf (a = r.params.collateralAsset ∧ x = basket) report.protocolFee.toNat =
      (t₁.balance a x).toNat + countIf (a = r.params.loanAsset ∧ x = router)
          report.borrowed.toNat +
        countIf (a = r.params.collateralAsset ∧ x = basket) report.received.toNat +
        countIf (a = r.params.collateralAsset ∧ x = c.registry.feeRecipient)
          report.protocolFee.toNat := htraded.balance a x
    have hsupplied := hpaid.balance a x
    -- what has arrived is what is supplied and the fee
    rw [← h.traded.brokered.net, countIf_add] at hbooks
    omega
  · rw [hpaid.supply, htraded.supply]
    change (t₁.supply a).toNat + _ = _
    rw [hgiven.supply]

/-- What the basket owes and has in the market once it is levered. -/
theorem Levered.account {adapter : Adapter} {o : SwapOrder} (hmarket : r.market = r.params.id)
    (h : Levered d basket units adapterName r m adapter b o report bank c c₁ t c') :
    (c'.pool.account r.market basket).borrowShares.toNat =
        (c.pool.account r.market basket).borrowShares.toNat +
          (report.borrowed.toNat * (m.totals.borrowShares.toNat + 1000000)) ⌈/⌉
            (m.totals.borrowAssets.toNat + 1) ∧
      (c'.pool.account r.market basket).collateral.toNat =
        (c.pool.account r.market basket).collateral.toNat + report.collateralSupplied.toNat := by
  obtain ⟨m₁, m₂, t₁, hborrowed, hshares, hcollateral, -, -, -, hm₂⟩ := h.banked
  obtain ⟨m₀, hm₀, haccrued⟩ := Bank.accrued_of_run h.accrued
  obtain ⟨shares, hprice, -, howed⟩ := hborrowed.ofShares
  rw [Record.account_market hmarket hm₂, Record.account_market hmarket hm₀, ← haccrued.account,
    hshares, ← hprice]
  exact ⟨howed, hcollateral⟩

/-- The router of the venue has nothing left to pull once the basket is levered. -/
theorem Levered.allowance {o : SwapOrder}
    (h : Levered d basket units adapterName r m (.fixedRate router) b o report bank c c₁ t c') :
    c'.tokens.allowance o.sendAsset basket router = 0 := by
  obtain ⟨m₁, m₂, t₁, -, -, -, -, -, hpaid, -⟩ := h.banked
  rw [hpaid.allowance]
  exact h.traded.brokered.allowance

end Levered

/-- Four addresses that are all different, two by two. -/
theorem ne_of_nodup {a b c d : Address} (h : [a, b, c, d].Nodup) :
    a ≠ b ∧ a ≠ c ∧ a ≠ d ∧ b ≠ c ∧ b ≠ d ∧ c ≠ d := by
  simp only [List.nodup_cons, List.mem_cons, List.not_mem_nil, not_or, or_false] at h
  obtain ⟨⟨hab, hac, had⟩, ⟨hbc, hbd⟩, hcd, -⟩ := h
  exact ⟨hab, hac, had, hbc, hbd, hcd⟩

/-- **Lever accounting.** In a world that can come about let basket, market, router and fee
recipient be different addresses, and let the basket be levered through an adapter of a venue with
fixed rates. Then the venue has a rate for the pair, and there are the accounts of a levering at
that rate. -/
theorem World.Reachable.lever_accounted {w w' : World} (hw : w.Reachable)
    {caller basket router : Address} {units least : Amount} {adapterName : String} {route : Bytes}
    {report : LeverReport}
    (hadapter : w.chain.registry.adapter w.desk.address adapterName = .ok (.fixedRate router))
    (hnodup : [basket, w.chain.pool.address, w.chain.venue.router,
      w.chain.registry.feeRecipient].Nodup)
    (h : (World.lever caller basket units least adapterName route).run w = .done report w') :
    ∃ r b rate m, w.desk.records.get? basket = some r ∧ w.chain.baskets.get? basket = some b ∧
      w.chain.venue.rates.get? (r.params.loanAsset, r.params.collateralAsset) = some rate ∧
      (Bank.accrue r.params).run w.chain.toBank = .done () (w.chain.toBank.booked r.params m) ∧
      LeverAccounts basket r b.supply units rate
        (w.chain.registry.fee w.desk.address w.desk.settings.feeIndex) m report w.chain
        w'.chain := by
  obtain ⟨s, log, hdone, rfl⟩ := World.operate_yields h
  obtain ⟨r, m, adapter, b, minimum, bank, c, t, hr, -, hlevered⟩ :=
    (Operation.lever_course w.desk caller basket units least adapterName route _).done hdone
  obtain rfl : adapter = .fixedRate router :=
    Except.ok.inj (hlevered.traded.registered.symm.trans hadapter)
  have hsound := hw.orderly.records basket r hr
  obtain ⟨hrouter, hquote, hledger, hsupply⟩ := hlevered.ledger hsound.distinct
  obtain ⟨rate, hrate, -, hreceived⟩ := Exchange.Venue.quote_eq_ok hquote
  obtain ⟨hshares, hcollateral⟩ := hlevered.account hsound.market
  have hbrokered := hlevered.traded.brokered
  have hspent := hlevered.allowance
  rw [hrouter] at hledger hspent
  obtain ⟨hpool, hvenue, hrecipient, hpool_venue, hpool_recipient, hvenue_recipient⟩ :=
    ne_of_nodup hnodup
  have hne := hsound.distinct
  refine ⟨r, b, rate, m, hr, hlevered.traded.found, hrate, hlevered.accrued, ?_⟩
  constructor
  case borrowed => exact (Amount.mulDivDown_eq_ok.1 hlevered.traded.quantity).2
  case received => exact hreceived
  case fee => exact BasisPoints.apply_eq_ok hbrokered.share
  case net => exact hbrokered.net
  case shares => exact hshares
  case collateral => exact hcollateral
  case allowance => exact hspent
  case collateralSupply => simpa using hsupply r.params.collateralAsset
  -- of the ledger there is left, for each holder, what he takes part in
  case marketLoan =>
    simpa [hpool_venue, hne.symm] using hledger r.params.loanAsset w.chain.pool.address
  case routerLoan =>
    simpa [hpool_venue.symm, hne.symm] using hledger r.params.loanAsset w.chain.venue.router
  case recipientCollateral =>
    simpa [hpool_recipient.symm, hne] using
      hledger r.params.collateralAsset w.chain.registry.feeRecipient
  case marketCollateral =>
    simpa [hpool_recipient, hne] using hledger r.params.collateralAsset w.chain.pool.address
  case walletLoan =>
    exact Word.ext (by simpa [hpool, hvenue, hne.symm] using hledger r.params.loanAsset basket)
  case walletCollateral =>
    exact Word.ext (by simpa [hpool, hrecipient, hne] using hledger r.params.collateralAsset basket)

open Deployment in
/-- The requests after which the basket of the reference deployment owes three of the smallest
units, and the protocol takes half a part in a hundred. -/
def indebted : List Request :=
  owing ++ [.chain (.registry (.setFee holder 0 ⟨number 50⟩))]

open Deployment in
/-- So it is for that basket, if it borrows as much again. -/
theorem World.lever_accounted_of_indebted : ∃ w report w' r b rate m,
    World.runs indebted (start .usual) = some w ∧
    w.chain.registry.adapter w.desk.address adapterName = .ok (.fixedRate router) ∧
    [Deployment.basket, w.chain.pool.address, w.chain.venue.router,
      w.chain.registry.feeRecipient].Nodup ∧
    (World.lever manager Deployment.basket (number 3) 0 adapterName []).run w = .done report w' ∧
    report.protocolFee.toNat = 5_000_000 ∧
    w.desk.records.get? Deployment.basket = some r ∧
    w.chain.baskets.get? Deployment.basket = some b ∧
    w.chain.venue.rates.get? (r.params.loanAsset, r.params.collateralAsset) = some rate ∧
    (Bank.accrue r.params).run w.chain.toBank = .done () (w.chain.toBank.booked r.params m) ∧
    LeverAccounts Deployment.basket r b.supply (number 3) rate
      (w.chain.registry.fee w.desk.address w.desk.settings.feeIndex) m report w.chain w'.chain := by
  have hlevers : ((World.runs indebted (start .usual)).map fun w =>
      decide (w.chain.registry.adapter w.desk.address adapterName = .ok (.fixedRate router)) &&
      decide ([Deployment.basket, w.chain.pool.address, w.chain.venue.router,
        w.chain.registry.feeRecipient].Nodup) &&
      ((World.lever manager Deployment.basket (number 3) 0 adapterName []).run w).isDoneWith
        fun report _ => decide (report.protocolFee.toNat = 5_000_000)) = some true := by
    decide +kernel
  obtain ⟨w, hw, hlevers⟩ := Option.map_eq_some_iff.1 hlevers
  simp only [Bool.and_eq_true, decide_eq_true_eq] at hlevers
  obtain ⟨⟨hadapter, hnodup⟩, hdone⟩ := hlevers
  obtain ⟨report, w', hlever, hfee⟩ := Outcome.exists_of_isDoneWith hdone
  have hreachable : w.Reachable := ⟨pool, router, feeRecipient, holder, owner, .usual, _, hw⟩
  obtain ⟨r, b, rate, m, haccounts⟩ :=
    World.Reachable.lever_accounted hreachable hadapter hnodup hlever
  exact ⟨w, report, w', r, b, rate, m, hw, hadapter, hnodup, hlever, of_decide_eq_true hfee,
    haccounts⟩

/-! ## Down -/

section Sale

variable {d : Desk} {basket router spender : Address} {units sent minimum received fee net : Amount}
variable {adapterName : String} {route : Bytes} {r : Record} {m : Market} {b : Basket}
variable {bank : Bank} {c c₁ : Chain} {t t' : TokenBook} {repaid : Amount}

/-- **All that a sale and a repayment move**, of any asset and for any holder. The basket hands on
the collateral that it is given, and has of the loan asset what is not paid out again. -/
theorem Sale.ledger (hdistinct : r.params.collateralAsset ≠ r.params.loanAsset)
    (h : Sale d basket units adapterName r m (.writesOrder router spender) b
      ⟨r.params.collateralAsset, r.params.loanAsset, basket, sent, minimum, route⟩ received fee net
      bank c c₁ t)
    (hpaid : TokenBook.Transferred r.params.loanAsset basket c.pool.address repaid t t') :
    router = c.venue.router ∧
      c.venue.quote r.params.collateralAsset r.params.loanAsset sent = .ok received ∧
      ∀ a x, (t'.balance a x).toNat +
          countIf (a = r.params.collateralAsset ∧ x = c.pool.address) sent.toNat +
          countIf (a = r.params.loanAsset ∧ x = basket) (fee.toNat + repaid.toNat) =
        (c.tokens.balance a x).toNat +
          countIf (a = r.params.collateralAsset ∧ x = router) sent.toNat +
          countIf (a = r.params.loanAsset ∧ x = basket) received.toNat +
          countIf (a = r.params.loanAsset ∧ x = c.registry.feeRecipient) fee.toNat +
          countIf (a = r.params.loanAsset ∧ x = c.pool.address) repaid.toNat := by
  obtain ⟨m₁, t₁, -, -, -, -, hgiven, rfl⟩ := h.withdrew
  obtain ⟨hrouter, hquote, htraded⟩ := h.traded.brokered.accounted rfl
    (hgiven.balance_of_ne hdistinct.symm basket).symm
  refine ⟨hrouter, hquote, fun a x => ?_⟩
  have hwithdrawn : (t₁.balance a x).toNat +
      countIf (a = r.params.collateralAsset ∧ x = c.pool.address) sent.toNat =
    (c.tokens.balance a x).toNat +
      countIf (a = r.params.collateralAsset ∧ x = basket) sent.toNat := hgiven.balance a x
  have hbooks : (t.balance a x).toNat +
      countIf (a = r.params.collateralAsset ∧ x = basket) sent.toNat +
      countIf (a = r.params.loanAsset ∧ x = basket) fee.toNat =
    (t₁.balance a x).toNat + countIf (a = r.params.collateralAsset ∧ x = router) sent.toNat +
      countIf (a = r.params.loanAsset ∧ x = basket) received.toNat +
      countIf (a = r.params.loanAsset ∧ x = c.registry.feeRecipient) fee.toNat :=
    htraded.balance a x
  have hrepaid := hpaid.balance a x
  rw [countIf_add]
  omega

/-- So the basket, the market, the router and the fee recipient, if they are different addresses,
come to have these balances. -/
theorem Sale.balances (hdistinct : r.params.collateralAsset ≠ r.params.loanAsset)
    (hnodup : [basket, c.pool.address, c.venue.router, c.registry.feeRecipient].Nodup)
    (h : Sale d basket units adapterName r m (.writesOrder router spender) b
      ⟨r.params.collateralAsset, r.params.loanAsset, basket, sent, minimum, route⟩ received fee net
      bank c c₁ t)
    (hpaid : TokenBook.Transferred r.params.loanAsset basket c.pool.address repaid t t') :
    t'.balance r.params.collateralAsset basket =
        c.tokens.balance r.params.collateralAsset basket ∧
      (t'.balance r.params.loanAsset c.registry.feeRecipient).toNat =
        (c.tokens.balance r.params.loanAsset c.registry.feeRecipient).toNat + fee.toNat ∧
      (t'.balance r.params.loanAsset c.pool.address).toNat =
        (c.tokens.balance r.params.loanAsset c.pool.address).toNat + repaid.toNat ∧
      (t'.balance r.params.loanAsset basket).toNat + (fee.toNat + repaid.toNat) =
        (c.tokens.balance r.params.loanAsset basket).toNat + received.toNat := by
  obtain ⟨hrouter, -, hledger⟩ := h.ledger hdistinct hpaid
  obtain ⟨hpool_basket, hvenue, hrecipient, hpool_venue, hpool_recipient, hvenue_recipient⟩ :=
    ne_of_nodup hnodup
  rw [hrouter] at hledger
  -- of the ledger there is left, for each holder, what he takes part in
  refine ⟨Word.ext ?_, ?_, ?_, ?_⟩
  · simpa [hpool_basket, hvenue, hdistinct] using hledger r.params.collateralAsset basket
  · simpa [hpool_recipient.symm, hrecipient.symm, hdistinct.symm] using
      hledger r.params.loanAsset c.registry.feeRecipient
  · simpa [hpool_recipient, hpool_basket.symm, hdistinct.symm] using
      hledger r.params.loanAsset c.pool.address
  · simpa [hpool_basket, hrecipient, hdistinct.symm] using hledger r.params.loanAsset basket

end Sale

/-- **Delever accounting.** In a world that can come about let basket, market, router and fee
recipient be different addresses, and let the basket be delevered through an adapter of a venue with
fixed rates. Then the venue has a rate for the pair, the debt can be told, and there are the
accounts of a delevering at that rate. -/
theorem World.Reachable.delever_accounted {w w' : World} (hw : w.Reachable)
    {caller basket router : Address} {units least : Amount} {adapterName : String} {route : Bytes}
    {report : DeleverReport}
    (hadapter : w.chain.registry.adapter w.desk.address adapterName = .ok (.fixedRate router))
    (hnodup : [basket, w.chain.pool.address, w.chain.venue.router,
      w.chain.registry.feeRecipient].Nodup)
    (h : (World.delever caller basket units least adapterName route).run w = .done report w') :
    ∃ r b rate m debt, w.desk.records.get? basket = some r ∧
      w.chain.baskets.get? basket = some b ∧
      w.chain.venue.rates.get? (r.params.collateralAsset, r.params.loanAsset) = some rate ∧
      (Bank.accrue r.params).run w.chain.toBank = .done () (w.chain.toBank.booked r.params m) ∧
      m.debtOf basket = .ok debt ∧
      DeleverAccounts basket r b.supply units rate
        (w.chain.registry.fee w.desk.address w.desk.settings.feeIndex) debt report w.chain
        w'.chain := by
  obtain ⟨s, log, hdone, rfl⟩ := World.operate_yields h
  obtain ⟨r, m, adapter, b, minimum, net, bank, c, t, s₁, hr, -, hsale, hrepay, hfinished⟩ :=
    (Operation.delever_course w.desk caller basket units least adapterName route _).done hdone
  obtain rfl : adapter = .fixedRate router :=
    Except.ok.inj (hsale.traded.registered.symm.trans hadapter)
  have hsound := hw.orderly.records basket r hr
  obtain ⟨m₀, hm₀, haccrued⟩ := Bank.accrued_of_run hsale.accrued
  obtain ⟨debt, m₁, t₁, hdebt, hmin, hcleared, hcollateral, hpaid, rfl⟩ :=
    hsale.repays hsound.market hrepay
  obtain ⟨-, hquote, -⟩ := hsale.ledger hsound.distinct hpaid
  obtain ⟨rate, hrate, -, hreceived⟩ := Exchange.Venue.quote_eq_ok hquote
  have hbrokered := hsale.traded.brokered
  have hnet := hbrokered.net
  have hbank : s.chain.toBank = { w.chain.toBank.booked r.params m₁ with tokens := t₁ } :=
    hfinished.bank
  have htokens : s.chain.tokens = t₁ := congrArg Bank.tokens hbank
  have hpool : s.chain.pool.markets.get? r.params.id = some m₁ := by
    have hmarkets := congrArg (fun b : Bank => b.pool.markets.get? r.params.id) hbank
    exact hmarkets.trans Bank.get?_booked_self
  obtain ⟨hwallet, hrecipient, hlent, hleft⟩ := hsale.balances hsound.distinct hnodup hpaid
  rw [← htokens] at hwallet hrecipient hlent hleft
  refine ⟨r, b, rate, m, debt, hr, hsale.traded.found, hrate, hsale.accrued, hdebt, ?_⟩
  constructor
  case withdrawn => exact (Amount.mulDivDown_eq_ok.1 hsale.traded.quantity).2
  case received => exact hreceived
  case fee => exact BasisPoints.apply_eq_ok hbrokered.share
  case fee_le => omega
  case repaid => rw [hmin, min_comm, ← hnet, Nat.add_sub_cancel]
  case collateral =>
    change (s.chain.pool.account r.market basket).collateral.toNat + _ = _
    rw [Record.account_market hsound.market hpool, Record.account_market hsound.market hm₀,
      ← haccrued.account]
    exact hcollateral
  case cleared =>
    change (s.chain.pool.account r.market basket).borrowShares = 0 ↔ _
    rw [Record.account_market hsound.market hpool, ← hnet, Nat.add_sub_cancel]
    exact hcleared
  case unit =>
    exact hfinished.unit ((hsale.traded.owns hw.orderly.tidy).of_baskets rfl)
  case walletCollateral => exact hwallet
  case recipientLoan => exact hrecipient
  case marketLoan => exact hlent
  case walletLoan =>
    change (s.chain.tokens.balance r.params.loanAsset basket).toNat = _
    omega

open Deployment in
/-- So it is for that basket, if it gives up a little of its collateral: three of the smallest units
are more than enough for what it owes. -/
theorem World.delever_accounted_of_indebted : ∃ w report w' r b rate m debt,
    World.runs indebted (start .usual) = some w ∧
    w.chain.registry.adapter w.desk.address adapterName = .ok (.fixedRate router) ∧
    [Deployment.basket, w.chain.pool.address, w.chain.venue.router,
      w.chain.registry.feeRecipient].Nodup ∧
    (World.delever manager Deployment.basket (number 100_000_000_000) 0 adapterName []).run w =
      .done report w' ∧
    report.protocolFee.toNat = 1 ∧ report.repaid.toNat = 3 ∧
    w.desk.records.get? Deployment.basket = some r ∧
    w.chain.baskets.get? Deployment.basket = some b ∧
    w.chain.venue.rates.get? (r.params.collateralAsset, r.params.loanAsset) = some rate ∧
    (Bank.accrue r.params).run w.chain.toBank = .done () (w.chain.toBank.booked r.params m) ∧
    m.debtOf Deployment.basket = .ok debt ∧
    DeleverAccounts Deployment.basket r b.supply (number 100_000_000_000) rate
      (w.chain.registry.fee w.desk.address w.desk.settings.feeIndex) debt report w.chain
      w'.chain := by
  have hdelevers : ((World.runs indebted (start .usual)).map fun w =>
      decide (w.chain.registry.adapter w.desk.address adapterName = .ok (.fixedRate router)) &&
      decide ([Deployment.basket, w.chain.pool.address, w.chain.venue.router,
        w.chain.registry.feeRecipient].Nodup) &&
      ((World.delever manager Deployment.basket (number 100_000_000_000) 0 adapterName []).run
        w).isDoneWith fun report _ =>
          decide (report.protocolFee.toNat = 1 ∧ report.repaid.toNat = 3)) = some true := by
    decide +kernel
  obtain ⟨w, hw, hdelevers⟩ := Option.map_eq_some_iff.1 hdelevers
  simp only [Bool.and_eq_true, decide_eq_true_eq] at hdelevers
  obtain ⟨⟨hadapter, hnodup⟩, hdone⟩ := hdelevers
  obtain ⟨report, w', hdelever, hreported⟩ := Outcome.exists_of_isDoneWith hdone
  obtain ⟨hfee, hrepaid⟩ := of_decide_eq_true hreported
  have hreachable : w.Reachable := ⟨pool, router, feeRecipient, holder, owner, .usual, _, hw⟩
  obtain ⟨r, b, rate, m, debt, haccounts⟩ :=
    World.Reachable.delever_accounted hreachable hadapter hnodup hdelever
  exact ⟨w, report, w', r, b, rate, m, debt, hw, hadapter, hnodup, hdelever, hfee, hrepaid,
    haccounts⟩

end Leverage

end LeveredBasket
