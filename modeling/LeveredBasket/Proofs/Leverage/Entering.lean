/-
Entering (`LeverageModule::enter_collateral_position`) keeps what a basket's units
stand for.

The notional of a unit is rounded up when a basket is funded, rounded down when it is
entered, and what is in wallet and market together is divided by the supply again,
rounded down. What the first rounding puts in over the second stays in the wallet, and
it is the whole of the first that the unit is regained from. So the unit is no smaller
than before (`le_regained`), and it is larger by less than what one smallest unit of the
asset comes to for each token (`regained_sub_mul_lt`); where there is a whole token at
least, it is the same.

The pool keeps all collateral under its own address. A basket of that very address
supplies it to itself: nothing leaves the wallet, the books count it a second time, and
the unit is twice what it was (`World.enter_doubles_of_founded`).
-/
import LeveredBasket.Proofs.Lending.Bystanders
import LeveredBasket.Proofs.Leverage.Rewriting
import LeveredBasket.Proofs.Leverage.Worlds

set_option autoImplicit false

namespace LeveredBasket

namespace Leverage

open Lending (Bank)

/-! ## The steps of an entering -/

variable {d : Desk} {basket : Address} {r : Record} {b : Basket} {report : SyncReport}
variable {notional : Amount} {bank : Bank} {ps : List Position} {bal : Balances} {c c' : Chain}

/-- **What an entering has done**: the notional of the default unit is supplied to the market, the
unit is written off, and the external units are written from the balances that there are then. -/
structure Chain.Entered (d : Desk) (basket : Address) (r : Record) (b : Basket) (notional : Amount)
    (bank : Bank) (ps : List Position) (bal : Balances) (report : SyncReport) (c c' : Chain) :
    Prop where
  found : c.baskets.get? basket = some b
  entered : r.entered = true
  priced : (b.defaultUnit r.params.collateralAsset).notionalSize b.supply = .ok notional
  supplied : (Bank.supplyCollateral r.params basket notional).run c.toBank = .done () bank
  written : Positions.Written (.ofDefault r.params.collateralAsset .zero) b.positions ps
  read : r.balances { c with toBank := bank } basket = .ok bal
  reported : r.report { b with positions := ps } bal = .ok report
  left : c' = ({ c with toBank := bank } : Chain).setBasket basket
    { b with positions := r.restate d.address report ps }

theorem Operation.enter_course (caller basket : Address) (d : Desk) (s : Session) :
    ((Operation.enter caller basket d).run s).Yields fun report s' => ∃ r b notional bank ps bal,
      s.records.get? basket = some r ∧
        Chain.Entered d basket { r with entered := true } b notional bank ps bal report s.chain
          s'.chain := by
  rw [Operation.enter]
  refine Action.yields_bind (requireManager_yields caller basket s) ?_
  rintro _ s rfl
  refine Action.yields_bind (recordOf_yields d basket _) ?_
  rintro r s ⟨rfl, hr⟩
  simp only [Outcome.Yields, Action.ends_bind, Action.ends_require, ends_ledger,
    Chain.ends_theBasket, ends_compute, ends_lending, keep, Action.ends_modify, emit,
    Action.run_pure, Outcome.ends_done, implies_true, and_true]
  intro _ b hb _ notional hnotional _
  refine (Outcome.yields_self _).yields fun _ bank hsupply => ?_
  refine (writeDefault_yields basket _ _ _).yields ?_
  rintro _ _ ⟨c, ⟨b₀, ps, hb₀, hps, rfl⟩, rfl⟩
  obtain rfl : b = b₀ := Option.some.inj (hb.symm.trans hb₀)
  refine (Outcome.yields_self _).yields fun report s' hwrites => ?_
  -- the supply is that of the basket whose default unit has been written off
  have hfound := Chain.get?_setBasket { s.chain with toBank := bank } basket basket
    { b with positions := ps }
  rw [if_pos rfl] at hfound
  obtain ⟨bal, hbal, hreport, rfl⟩ :=
    (run_writePositions_eq_done (b := { b with positions := ps }) hfound).1 hwrites
  refine ⟨r, b, notional, bank, ps, bal, hr, hb, rfl, hnotional, hsupply, hps, hbal, hreport, ?_⟩
  exact Chain.setBasket_setBasket _ _ _ _

/-! ## What is left of an entering -/

section Left

variable (h : Chain.Entered d basket r b notional bank ps bal report c c')

include h

/-- **The collateral is in the market**, but for what rounding leaves in the wallet; the balances of
the basket come to what it had. -/
theorem Chain.Entered.moved (hmarket : r.market = r.params.id) (haside : basket ≠ c.pool.address) :
    (c'.pool.account r.market basket).collateral.toNat =
        (c.pool.account r.market basket).collateral.toNat + notional.toNat ∧
      (c'.tokens.balance r.params.collateralAsset basket).toNat + notional.toNat =
        (c.tokens.balance r.params.collateralAsset basket).toNat ∧
      bal.collateral.toNat = (c'.tokens.balance r.params.collateralAsset basket).toNat +
        (c'.pool.account r.market basket).collateral.toNat := by
  obtain ⟨m, m', t, hm, -, -, -, hcollateral, htransferred, hbank⟩ :=
    (Bank.supplyCollateral_ends r.params basket notional _).done h.supplied
  have hm' : bank.pool.markets.get? r.params.id = some m' := by
    rw [hbank]
    exact Bank.get?_booked_self
  have hpool : c'.toBank = bank := by
    rw [h.left]
    rfl
  have haccount : c'.pool.account r.market basket = m'.account basket := by
    rw [hpool]
    exact r.account_market (c := { c with toBank := bank }) hmarket hm' basket
  have hpaid := htransferred.balance_sender
  have hread := Amount.add_eq_ok.1 ((Record.balances_iff hmarket hm').1 h.read).2.2
  have htokens : bank.tokens = t := by rw [hbank]
  change bal.collateral.toNat = (bank.tokens.balance r.params.collateralAsset basket).toNat + _
    at hread
  -- the recipient is someone else, so the transfer is off the balance
  rw [countIf_pos haside] at hpaid
  rw [haccount, r.account_market hmarket hm basket, hpool, hread, htokens]
  exact ⟨hcollateral, hpaid, rfl⟩

/-- **The ledger afterwards**: no default unit of the collateral is left, and the external unit is
that of the report. -/
theorem Chain.Entered.ledger (hdistinct : r.params.collateralAsset ≠ r.params.loanAsset)
    (htidy : Positions.Tidy b.positions) : ∃ b', c'.baskets.get? basket = some b' ∧
      b'.supply = b.supply ∧ b'.defaultUnit r.params.collateralAsset = .zero ∧
      (∀ p ∈ b'.positions, p.place ≠ (r.params.collateralAsset, .default, none)) ∧
      b'.externalUnit r.params.collateralAsset d.address = report.collateralUnit := by
  -- three writes in a row, each at a place of its own
  have htidy₁ := h.written.tidy htidy
  have hcollateral := Positions.written_put
    (.ofExternal r.params.collateralAsset d.address report.collateralUnit) ps
  have htidy₂ := hcollateral.tidy htidy₁
  have hloan := Positions.written_put
    (.ofExternal r.params.loanAsset d.address report.borrowUnit)
    (Positions.put (.ofExternal r.params.collateralAsset d.address report.collateralUnit) ps)
  have hrestate : r.restate d.address report ps = Positions.put
      (.ofExternal r.params.loanAsset d.address report.borrowUnit) (Positions.put
        (.ofExternal r.params.collateralAsset d.address report.collateralUnit) ps) := by
    rw [Record.restate, if_pos h.entered]
  rw [← hrestate] at hloan
  have hdefault : Positions.unit (.ofDefault r.params.collateralAsset .zero)
      (r.restate d.address report ps) = .zero := by
    rw [hloan.unit htidy₂, if_neg (by simp), hcollateral.unit htidy₁, if_neg (by simp),
      h.written.unit htidy, if_pos rfl]
    rfl
  have hexternal : Positions.unit (.ofExternal r.params.collateralAsset d.address .zero)
      (r.restate d.address report ps) = report.collateralUnit := by
    rw [hloan.unit htidy₂, if_neg (by simpa using hdistinct), hcollateral.unit htidy₁,
      if_pos (by simp)]
    rfl
  refine ⟨{ b with positions := r.restate d.address report ps }, ?_, rfl, hdefault, fun p hp => ?_,
    hexternal⟩
  · rw [h.left, Chain.get?_setBasket, if_pos rfl]
  · exact (hloan.tidy htidy₂).not_mem_of_unit hdefault hp

end Left

/-- **Entering keeps the collateral.** In a world that can come about, let a basket have in its
wallet the notional of its default collateral unit, rounded up, as it has when it is created, and
nothing in the market; and let it not be of the pool's own address. If entering goes through, the
notional rounded down is in the market and the rest of what the basket had is still in its wallet.
The default unit is gone. The external unit in its place is no smaller, larger by less than a
smallest unit of the asset for each token, and the same if there is a whole token. -/
theorem World.Reachable.enter_keeps_collateral {w w' : World} (hw : w.Reachable)
    {caller basket : Address} {r : Record} {b : Basket} {unit : Nat} {report : SyncReport}
    (hr : w.desk.records.get? basket = some r) (hb : w.chain.baskets.get? basket = some b)
    (hunit : (b.defaultUnit r.params.collateralAsset).value.toInt = unit)
    (hwallet : (w.chain.tokens.balance r.params.collateralAsset basket).toNat =
      (unit * b.supply.toNat) ⌈/⌉ Amount.one.toNat)
    (hnone : (w.chain.pool.account r.market basket).collateral = 0)
    (haside : basket ≠ w.chain.pool.address)
    (h : (World.enter caller basket).run w = .done report w') :
    (w'.chain.pool.account r.market basket).collateral.toNat =
        unit * b.supply.toNat / Amount.one.toNat ∧
      (w'.chain.tokens.balance r.params.collateralAsset basket).toNat +
          (w'.chain.pool.account r.market basket).collateral.toNat =
        (unit * b.supply.toNat) ⌈/⌉ Amount.one.toNat ∧
      ∃ (b' : Basket) (unit' : Nat), w'.chain.baskets.get? basket = some b' ∧
        b'.supply = b.supply ∧ b'.defaultUnit r.params.collateralAsset = .zero ∧
        (∀ p ∈ b'.positions, p.place ≠ (r.params.collateralAsset, .default, none)) ∧
        (b'.externalUnit r.params.collateralAsset w.desk.address).value.toInt = unit' ∧
        unit ≤ unit' ∧ (unit' - unit) * b.supply.toNat < Amount.one.toNat ∧
        (Amount.one.toNat ≤ b.supply.toNat → unit' = unit) := by
  have hsound := hw.orderly.records basket r hr
  have hone : 0 < Amount.one.toNat := by decide
  obtain ⟨s, log, hrun, rfl⟩ := World.operate_yields h
  obtain ⟨r₁, b₁, notional, bank, ps, bal, hr₁, hentered⟩ :=
    (Operation.enter_course caller basket w.desk _).done hrun
  obtain rfl : r = r₁ := Option.some.inj (hr.symm.trans hr₁)
  obtain rfl : b = b₁ := Option.some.inj (hb.symm.trans hentered.found)
  obtain ⟨hcollateral, hpaid, hbalances⟩ := hentered.moved hsound.market haside
  obtain ⟨b', hb', hsupply, hdefault, hgone, hexternal⟩ :=
    hentered.ledger hsound.distinct (hw.orderly.tidy basket b hb)
  have hnotional : notional.toNat = unit * b.supply.toNat / Amount.one.toNat := by
    rw [PositionUnit.notionalSize_eq_ok hentered.priced, PositionUnit.magnitude_toNat hunit]
  -- what the first rounding put in over the second is in the wallet, and is counted again
  have hsum : bal.collateral.toNat = (unit * b.supply.toNat) ⌈/⌉ Amount.one.toNat := by
    rw [← hwallet, ← hpaid, hbalances, hcollateral, hnone, Word.toNat_zero, Nat.zero_add]
  obtain ⟨hpos, hregained⟩ :=
    PositionUnit.ofHolding_eq_ok ((Record.units_of_report hentered.reported).1 hentered.entered)
  rw [hsum, ← hexternal] at hregained
  refine ⟨?_, hbalances.symm.trans hsum, b', _, hb', hsupply, hdefault, hgone, hregained,
    le_regained unit hpos hone, regained_sub_mul_lt unit b.supply.toNat hone, regained_eq unit hone⟩
  rw [hcollateral, hnone, Word.toNat_zero, Nat.zero_add, hnotional]

open Deployment in
/-- The requests after which a basket of the given address has so much supply with so much
collateral for each token, and is enrolled. -/
def founding (address : Address) (supply : Amount) (unit : PositionUnit) : List Request :=
  furnishing.map .chain ++
    ([.basket address (.create manager supply [(wsteth, unit)]),
      .basket address (.addModule orchestrator), .basket address (.confirmModule orchestrator),
      .basket address (.addModule holder)] : List ChainRequest).map .chain ++
    [.desk (.basket address (.setAllowed owner true)),
      .desk (.basket address (.enrol manager params))]

/-- Three tenths of a wstETH for each token. -/
def threeTenths : PositionUnit := ⟨⟨300_000_000_000_000_000, by decide, by decide⟩⟩

open Deployment in
/-- So it is for seven of the smallest units of a token, which stand for two of the smallest units
of collateral and a tenth. -/
theorem World.enter_keeps_collateral_of_founded : ∃ w r b report w' b', ∃ unit' : Nat,
    World.runs (founding lender (number 7) threeTenths) (start .usual) = some w ∧
    w.desk.records.get? lender = some r ∧ w.chain.baskets.get? lender = some b ∧
    b.supply.toNat = 7 ∧ b.defaultUnit r.params.collateralAsset = threeTenths ∧
    (w.chain.tokens.balance r.params.collateralAsset lender).toNat = 3 ∧
    (World.enter manager lender).run w = .done report w' ∧
    (w'.chain.pool.account r.market lender).collateral.toNat = 2 ∧
    (w'.chain.tokens.balance r.params.collateralAsset lender).toNat +
      (w'.chain.pool.account r.market lender).collateral.toNat = 3 ∧
    w'.chain.baskets.get? lender = some b' ∧
    b'.defaultUnit r.params.collateralAsset = .zero ∧
    (b'.externalUnit r.params.collateralAsset w.desk.address).value.toInt = unit' ∧
    300_000_000_000_000_000 ≤ unit' ∧
    (unit' - 300_000_000_000_000_000) * 7 < Amount.one.toNat := by
  have henters : ((World.runs (founding lender (number 7) threeTenths) (start .usual)).bind fun w =>
      (w.desk.records.get? lender).bind fun r =>
      (w.chain.baskets.get? lender).map fun b =>
        decide (b.supply.toNat = 7) &&
          decide (b.defaultUnit r.params.collateralAsset = threeTenths) &&
          decide ((w.chain.tokens.balance r.params.collateralAsset lender).toNat = 3) &&
          decide ((w.chain.pool.account r.market lender).collateral = 0) &&
          decide (lender ≠ w.chain.pool.address) &&
          ((World.enter manager lender).run w).isDone) = some true := by
    decide +kernel
  obtain ⟨w, hw, henters⟩ := Option.bind_eq_some_iff.1 henters
  obtain ⟨r, hr, henters⟩ := Option.bind_eq_some_iff.1 henters
  obtain ⟨b, hb, henters⟩ := Option.map_eq_some_iff.1 henters
  simp only [Bool.and_eq_true, decide_eq_true_eq] at henters
  obtain ⟨⟨⟨⟨⟨hsupply, hunit⟩, hwallet⟩, hnone⟩, haside⟩, hdone⟩ := henters
  obtain ⟨report, w', henter⟩ := Outcome.exists_of_isDone hdone
  have hreachable : w.Reachable := ⟨pool, router, feeRecipient, holder, owner, .usual, _, hw⟩
  have hvalue : (b.defaultUnit r.params.collateralAsset).value.toInt =
      (300_000_000_000_000_000 : Nat) := by
    rw [hunit]
    rfl
  have hfunded : (w.chain.tokens.balance r.params.collateralAsset lender).toNat =
      (300_000_000_000_000_000 * b.supply.toNat) ⌈/⌉ Amount.one.toNat := by
    rw [hwallet, hsupply]
    rfl
  obtain ⟨hsupplied, hkept, b', unit', hb', -, hdefault, -, hexternal, hle, hless, -⟩ :=
    World.Reachable.enter_keeps_collateral hreachable hr hb hvalue hfunded hnone haside henter
  rw [hsupply] at hsupplied hkept hless
  exact ⟨w, r, b, report, w', b', unit', hw, hr, hb, hsupply, hunit, hwallet, henter, hsupplied,
    hkept, hb', hdefault, hexternal, hle, hless⟩

open Deployment in
/-- A basket of the pool's own address, with one token that stands for one wstETH, supplies that to
itself: it is in the wallet still and in the books of the market as well. So what the basket has is
not kept, and neither is the unit. -/
theorem World.enter_doubles_of_founded : ¬∀ (w w' : World) (caller basket : Address) (r : Record)
    (b : Basket) (unit : Nat) (report : SyncReport), w.Reachable →
    w.desk.records.get? basket = some r → w.chain.baskets.get? basket = some b →
    (b.defaultUnit r.params.collateralAsset).value.toInt = unit → 0 < unit →
    (w.chain.tokens.balance r.params.collateralAsset basket).toNat =
      (unit * b.supply.toNat) ⌈/⌉ Amount.one.toNat →
    (w.chain.pool.account r.market basket).collateral = 0 →
    (World.enter caller basket).run w = .done report w' →
    (w'.chain.tokens.balance r.params.collateralAsset basket).toNat +
        (w'.chain.pool.account r.market basket).collateral.toNat =
      (unit * b.supply.toNat) ⌈/⌉ Amount.one.toNat ∧
    ∃ (b' : Basket) (unit' : Nat), w'.chain.baskets.get? basket = some b' ∧
      (b'.externalUnit r.params.collateralAsset w.desk.address).value.toInt = unit' ∧
      (Amount.one.toNat ≤ b.supply.toNat → unit' = unit) := by
  have henters : ((World.runs (founding pool Amount.one oneUnit) (start .usual)).bind fun w =>
      (w.desk.records.get? pool).bind fun r =>
      (w.chain.baskets.get? pool).map fun b =>
        decide (b.supply = Amount.one) &&
          decide (b.defaultUnit r.params.collateralAsset = oneUnit) &&
          decide (w.chain.tokens.balance r.params.collateralAsset pool = Amount.one) &&
          decide ((w.chain.pool.account r.market pool).collateral = 0) &&
          ((World.enter manager pool).run w).isDoneWith fun _ w' =>
            decide (w'.chain.tokens.balance r.params.collateralAsset pool = Amount.one) &&
              decide ((w'.chain.pool.account r.market pool).collateral = Amount.one)) =
        some true := by
    decide +kernel
  obtain ⟨w, hw, henters⟩ := Option.bind_eq_some_iff.1 henters
  obtain ⟨r, hr, henters⟩ := Option.bind_eq_some_iff.1 henters
  obtain ⟨b, hb, henters⟩ := Option.map_eq_some_iff.1 henters
  simp only [Bool.and_eq_true, decide_eq_true_eq] at henters
  obtain ⟨⟨⟨⟨hsupply, hunit⟩, hwallet⟩, hnone⟩, hdone⟩ := henters
  obtain ⟨report, w', henter, hends⟩ := Outcome.exists_of_isDoneWith hdone
  simp only [Bool.and_eq_true, decide_eq_true_eq] at hends
  obtain ⟨hkept, hsupplied⟩ := hends
  have hreachable : w.Reachable := ⟨pool, router, feeRecipient, holder, owner, .usual, _, hw⟩
  have hvalue : (b.defaultUnit r.params.collateralAsset).value.toInt =
      (1_000_000_000_000_000_000 : Nat) := by
    rw [hunit]
    rfl
  have hfunded : (w.chain.tokens.balance r.params.collateralAsset pool).toNat =
      (1_000_000_000_000_000_000 * b.supply.toNat) ⌈/⌉ Amount.one.toNat := by
    rw [hwallet, hsupply]
    rfl
  intro hkeeps
  obtain ⟨hsum, -⟩ := hkeeps w w' manager pool r b _ report hreachable hr hb hvalue (by decide)
    hfunded hnone henter
  rw [← hfunded, hkept, hsupplied, hwallet] at hsum
  exact absurd hsum (by decide)

end Leverage

end LeveredBasket
