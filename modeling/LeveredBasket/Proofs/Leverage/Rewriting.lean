/-
Positions rewritten from the books.

A rewriting (`LeverageModule::write_positions`) reads what stands behind a basket's
positions, works out a report (`Record.report`), and puts the units of the report on
the ledger (`Record.restate`). When it goes through, and what it comes to then, is
said by one equivalence (`run_writePositions_eq_done`), and from that the same is
said of a synchronization (`LeverageModule::sync_positions`;
`run_syncPositions_eq_done`).
-/
import LeveredBasket.Proofs.Leverage.Steps

set_option autoImplicit false

namespace LeveredBasket

/-! ## Putting positions on a list -/

namespace Positions

variable {p : Position} {ps : List Position}

/-- Puts a position on a list unless it stands there. -/
def put (p : Position) (ps : List Position) : List Position :=
  if unit p ps = p.unit then ps else write p ps

theorem put_of_unit (h : unit p ps = p.unit) : put p ps = ps := if_pos h

theorem written_put (p : Position) (ps : List Position) : Written p ps (put p ps) := by
  unfold put
  split
  case isTrue h => exact written_of_unit h
  case isFalse => exact written_write p ps

end Positions

namespace Chain

variable {c : Chain} {address : Address} {b : Basket} {p : Position}

theorem run_theBasket (hb : c.baskets.get? address = some b) :
    (theBasket address).run c = .done b c := by
  change (Action.ofExcept (c.basket address)).run c = _
  rw [basket, hb]
  rfl

/-- A position that may be written is put on the list. -/
theorem run_writePosition (hb : c.baskets.get? address = some b)
    (hp : ¬(p.kind = .default ∧ p.unit.isNegative = true)) : ∃ wrote,
      (writePosition address p).run c =
        .done wrote (c.setBasket address { b with positions := Positions.put p b.positions }) := by
  rw [writePosition, requireUnit, Action.require_pos hp, pure_bind,
    Action.run_bind_of_done (run_theBasket hb)]
  by_cases hunit : Positions.unit p b.positions = p.unit
  · refine ⟨false, ?_⟩
    rw [if_pos hunit, Positions.put_of_unit hunit]
    simp [setBasket, FiniteMap.insert_of_get? hb]
  · refine ⟨true, ?_⟩
    rw [if_neg hunit, Positions.put, if_neg hunit]
    rfl

end Chain

namespace Leverage

open Lending (Bank)

/-! ## Reports -/

/-- **What is to be reported** of a basket with these balances: the units that they come to. -/
def Record.report (r : Record) (b : Basket) (bal : Balances) : Except MathError SyncReport := do
  let collateralUnit ←
    if r.entered then PositionUnit.ofHolding bal.collateral b.supply
    else pure (b.defaultUnit r.params.collateralAsset)
  let borrowUnit ← PositionUnit.ofDebt bal.borrow b.supply
  pure ⟨b.supply, collateralUnit, borrowUnit, bal.collateral, bal.borrow⟩

/-- The positions of a basket with the units of a report put on them, for the module `holder`. -/
def Record.restate (r : Record) (holder : Address) (report : SyncReport) (ps : List Position) :
    List Position :=
  Positions.put (.ofExternal r.params.loanAsset holder report.borrowUnit)
    (if r.entered then
      Positions.put (.ofExternal r.params.collateralAsset holder report.collateralUnit) ps
    else ps)

/-- The session with these positions of a basket. -/
def Session.withPositions (s : Session) (basket : Address) (b : Basket) (ps : List Position) :
    Session :=
  { s with chain := s.chain.setBasket basket { b with positions := ps } }

/-- The session in which this has been said as well. -/
def Session.saying (s : Session) (payloads : List EventPayload) : Session :=
  { s with events := s.events ++ payloads }

/-- What a synchronization says. -/
def syncEvents (basket : Address) (found : Option SyncReport) : List EventPayload :=
  found.toList.map fun report =>
    .positionsSynced basket report.collateralUnit report.borrowUnit report.supply

/-- The units of a report are what the balances come to. -/
theorem Record.units_of_report {r : Record} {b : Basket} {bal : Balances} {report : SyncReport}
    (h : r.report b bal = .ok report) :
    (r.entered = true →
      PositionUnit.ofHolding bal.collateral b.supply = .ok report.collateralUnit) ∧
      PositionUnit.ofDebt bal.borrow b.supply = .ok report.borrowUnit := by
  unfold Record.report at h
  split at h
  case isTrue =>
    obtain ⟨unit, hunit, h⟩ := Except.bind_eq_ok.1 h
    obtain ⟨debt, hdebt, h⟩ := Except.bind_eq_ok.1 h
    obtain rfl := Except.ok.inj h
    exact ⟨fun _ => hunit, hdebt⟩
  case isFalse hentered =>
    obtain ⟨unit, -, h⟩ := Except.bind_eq_ok.1 h
    obtain ⟨debt, hdebt, h⟩ := Except.bind_eq_ok.1 h
    obtain rfl := Except.ok.inj h
    exact ⟨fun h => absurd h hentered, hdebt⟩

/-! ## What a rewriting comes to -/

namespace Operation

variable {d : Desk} {r : Record} {basket : Address} {b : Basket} {s s' : Session}

theorem run_theBasket (hb : s.chain.baskets.get? basket = some b) :
    (ledger (Chain.theBasket basket)).run s = .done b s := by
  change ((onChain LeverageError.ledger (Chain.theBasket basket)).run s) = _
  rw [onChain, Action.run_mapError, Action.run_within, Chain.run_theBasket hb]

/-- A desk's own unit is put on the ledger. -/
theorem run_writeExternal (d : Desk) (component : Address) (unit : PositionUnit)
    (hb : s.chain.baskets.get? basket = some b) :
    (writeExternal d basket component unit).run s =
      .done () (s.withPositions basket b
        (Positions.put (.ofExternal component d.address unit) b.positions)) := by
  obtain ⟨wrote, hrun⟩ := Chain.run_writePosition
    (p := .ofExternal component d.address unit) hb (by simp [Position.ofExternal])
  have hledger :
      (ledger (Chain.writePosition basket (.ofExternal component d.address unit))).run s =
        .done wrote (s.withPositions basket b
          (Positions.put (.ofExternal component d.address unit) b.positions)) := by
    rw [ledger, onChain, Action.run_mapError, Action.run_within, hrun]
    rfl
  rw [writeExternal, Action.run_bind_of_done hledger]
  rfl

end Operation

/-- Of two lists of positions the later counts. -/
theorem Session.withPositions_withPositions (s : Session) (basket : Address) (b : Basket)
    (ps qs : List Position) : (s.withPositions basket b ps).withPositions basket
      { b with positions := ps } qs = s.withPositions basket b qs := by
  simp [withPositions, Chain.setBasket]

/-- The positions that a basket has are its positions already. -/
theorem Session.withPositions_self {s : Session} {basket : Address} {b : Basket}
    (hb : s.chain.baskets.get? basket = some b) : s.withPositions basket b b.positions = s := by
  simp [withPositions, Chain.setBasket, FiniteMap.insert_of_get? hb]

theorem Session.get?_withPositions (s : Session) (basket : Address) (b : Basket)
    (ps : List Position) : (s.withPositions basket b ps).chain.baskets.get? basket =
      some { b with positions := ps } := s.chain.baskets.get?_insert_self basket _

namespace Operation

variable {d : Desk} {r : Record} {basket : Address} {b : Basket} {s s' : Session}

/-- What a rewriting ends with: the debt unit is worked out and put on the ledger. -/
theorem run_writeDebt_eq_done {bal : Balances} {collateralUnit : PositionUnit}
    {ps : List Position} {report : SyncReport} :
    (do
      let borrowUnit ← writeDebt d basket r bal.borrow b.supply
      pure (⟨b.supply, collateralUnit, borrowUnit, bal.collateral, bal.borrow⟩ : SyncReport) :
        Operation SyncReport).run (s.withPositions basket b ps) = .done report s' ↔
      ∃ borrowUnit, PositionUnit.ofDebt bal.borrow b.supply = .ok borrowUnit ∧
        report = ⟨b.supply, collateralUnit, borrowUnit, bal.collateral, bal.borrow⟩ ∧
        s' = s.withPositions basket b
          (Positions.put (.ofExternal r.params.loanAsset d.address borrowUnit) ps) := by
  have hwrite (unit : PositionUnit) :=
    run_writeExternal d r.params.loanAsset unit (s.get?_withPositions basket b ps)
  simp only [Session.withPositions_withPositions] at hwrite
  have hrest (unit : PositionUnit) : (do
      writeExternal d basket r.params.loanAsset unit
      pure (⟨b.supply, collateralUnit, unit, bal.collateral, bal.borrow⟩ : SyncReport) :
        Operation SyncReport).run (s.withPositions basket b ps) =
      .done ⟨b.supply, collateralUnit, unit, bal.collateral, bal.borrow⟩
        (s.withPositions basket b
          (Positions.put (.ofExternal r.params.loanAsset d.address unit) ps)) :=
    Action.run_bind_of_done (hwrite unit)
  simp only [writeDebt, bind_assoc, pure_bind]
  rw [Action.run_bind_eq_done]
  simp only [run_compute_eq_done]
  constructor
  · rintro ⟨unit, _, ⟨hunit, rfl⟩, hdone⟩
    rw [hrest] at hdone
    cases hdone
    exact ⟨unit, hunit, rfl, rfl⟩
  · rintro ⟨unit, hunit, rfl, rfl⟩
    exact ⟨unit, _, ⟨hunit, rfl⟩, hrest unit⟩

/-- **Positions are rewritten** exactly where balances can be told and a report be made of them, and
then the units of the report are put on the ledger. -/
theorem run_writePositions_eq_done (hb : s.chain.baskets.get? basket = some b)
    {report : SyncReport} :
    (writePositions d basket r b.supply).run s = .done report s' ↔
      ∃ bal, r.balances s.chain basket = .ok bal ∧ r.report b bal = .ok report ∧
        s' = s.withPositions basket b (r.restate d.address report b.positions) := by
  rw [writePositions, Action.run_bind_eq_done]
  simp only [run_balancesOf_eq_done, Record.report, Record.restate]
  cases hentered : r.entered with
  | true =>
    simp only [if_true, Except.bind_eq_ok]
    constructor
    · rintro ⟨bal, _, ⟨hbal, rfl⟩, hdone⟩
      obtain ⟨unit, _, hcomputed, hrest⟩ := Action.run_bind_eq_done.1 hdone
      obtain ⟨hunit, rfl⟩ := run_compute_eq_done.1 hcomputed
      rw [Action.run_bind_of_done (run_writeExternal d r.params.collateralAsset unit hb),
        pure_bind, run_writeDebt_eq_done] at hrest
      obtain ⟨borrowUnit, hdebt, rfl, rfl⟩ := hrest
      exact ⟨bal, hbal, ⟨unit, hunit, borrowUnit, hdebt, rfl⟩, rfl⟩
    · rintro ⟨bal, hbal, ⟨unit, hunit, borrowUnit, hdebt, hreport⟩, rfl⟩
      obtain rfl := Except.ok.inj hreport
      refine ⟨bal, s, ⟨hbal, rfl⟩, ?_⟩
      rw [Action.run_bind_of_done (run_compute_eq_done.2 ⟨hunit, rfl⟩),
        Action.run_bind_of_done (run_writeExternal d r.params.collateralAsset unit hb),
        pure_bind, run_writeDebt_eq_done]
      exact ⟨borrowUnit, hdebt, rfl, rfl⟩
  | false =>
    have hself := s.withPositions_self hb
    simp only [Bool.false_eq_true, if_false, pure_bind, Except.bind_eq_ok]
    constructor
    · rintro ⟨bal, _, ⟨hbal, rfl⟩, hdone⟩
      rw [Action.run_bind_of_done (run_theBasket hb), ← hself, run_writeDebt_eq_done] at hdone
      obtain ⟨borrowUnit, hdebt, rfl, rfl⟩ := hdone
      exact ⟨bal, hbal, ⟨borrowUnit, hdebt, rfl⟩, rfl⟩
    · rintro ⟨bal, hbal, ⟨borrowUnit, hdebt, hreport⟩, rfl⟩
      obtain rfl := Except.ok.inj hreport
      refine ⟨bal, s, ⟨hbal, rfl⟩, ?_⟩
      rw [Action.run_bind_of_done (run_theBasket hb)]
      nth_rewrite 1 [← hself]
      rw [run_writeDebt_eq_done]
      exact ⟨borrowUnit, hdebt, rfl, rfl⟩

/-- **A synchronization** accrues interest, rewrites the positions and says so, unless there is no
supply. -/
theorem run_syncPositions_eq_done (hb : s.chain.baskets.get? basket = some b)
    {found : Option SyncReport} :
    (syncPositions d basket r).run s = .done found s' ↔
      b.supply = 0 ∧ found = none ∧ s' = s ∨
        b.supply ≠ 0 ∧ ∃ bank bal report, (Bank.accrue r.params).run s.chain.toBank = .done () bank ∧
          r.balances (s.withBank bank).chain basket = .ok bal ∧ r.report b bal = .ok report ∧
          found = some report ∧
          s' = ((s.withBank bank).withPositions basket b
            (r.restate d.address report b.positions)).saying (syncEvents basket found) := by
  have hsupply : (supplyOf basket).run s = .done b.supply s := by
    rw [supplyOf, Action.run_bind_of_done (run_theBasket hb)]
    rfl
  rw [syncPositions, Action.run_bind_of_done hsupply]
  by_cases hnone : b.supply = 0
  · simp [hnone, eq_comm]
  · have hrest (bank : Bank) : (writePositions d basket r b.supply >>= fun report => do
        emitSynced basket report
        pure (some report)).run (s.withBank bank) = .done found s' ↔
        ∃ bal report, r.balances (s.withBank bank).chain basket = .ok bal ∧
          r.report b bal = .ok report ∧ found = some report ∧
          s' = ((s.withBank bank).withPositions basket b
            (r.restate d.address report b.positions)).saying (syncEvents basket found) := by
      rw [Action.run_bind_eq_done]
      simp only [run_writePositions_eq_done (s := s.withBank bank) hb]
      constructor
      · rintro ⟨report, _, ⟨bal, hbal, hreport, rfl⟩, hdone⟩
        cases hdone
        exact ⟨bal, report, hbal, hreport, rfl, rfl⟩
      · rintro ⟨bal, report, hbal, hreport, rfl, rfl⟩
        exact ⟨report, _, ⟨bal, hbal, hreport, rfl⟩, rfl⟩
    rw [if_neg hnone, Action.run_bind_eq_done]
    simp only [run_lending_eq_done, hnone, false_and, false_or, ne_eq, not_false_eq_true, true_and]
    constructor
    · rintro ⟨_, _, ⟨bank, haccrue, rfl⟩, hdone⟩
      obtain ⟨bal, report, hdone⟩ := (hrest bank).1 hdone
      exact ⟨bank, bal, report, haccrue, hdone⟩
    · rintro ⟨bank, bal, report, haccrue, hdone⟩
      exact ⟨(), _, ⟨bank, haccrue, rfl⟩, (hrest bank).2 ⟨bal, report, hdone⟩⟩

/-- Only a basket that is there is synchronized. -/
theorem exists_basket_of_syncPositions {found : Option SyncReport}
    (h : (syncPositions d basket r).run s = .done found s') :
    ∃ b, s.chain.baskets.get? basket = some b := by
  obtain ⟨supply, s₁, hsupply, -⟩ := Action.run_bind_eq_done.1 h
  have hfound : ((supplyOf basket).run s).Yields fun _ _ =>
      ∃ b, s.chain.baskets.get? basket = some b :=
    ends_supplyOf.2 ⟨fun b hb => ⟨b, hb⟩, fun _ => trivial⟩
  exact hfound.done hsupply

theorem run_recordOf_eq_done : (recordOf d basket).run s = .done r s' ↔
    s.chain.status basket d.address = .initialized ∧ s.records.get? basket = some r ∧ s' = s := by
  rw [recordOf, Action.run_bind_of_done (Action.run_read _ s), Action.run_require_bind_eq_done,
    Action.run_bind_of_done (Action.run_read _ s)]
  refine and_congr_right fun _ => ?_
  cases s.records.get? basket <;> simp [eq_comm]

end Operation

end Leverage

end LeveredBasket
