/-
Units that are in line with what stands behind them.

`Record.Aligned` says it of a basket: the debt unit is the debt over the supply,
rounded away from zero, and the collateral unit is the collateral over the supply,
rounded down, once the collateral has been entered. Rewriting both positions
(`LeverageModule::write_positions`) brings a basket in line
(`writePositions_spec`), whatever its units were before: each write is read back
as it was written, and the second one is in another place than the first.
-/
import LeveredBasket.Proofs.Leverage.Errand

set_option autoImplicit false

namespace LeveredBasket.Leverage

open Operation (ledger compute balancesOf supplyOf writeExternal writeDefault writeDebt
  writePositions)

/-! ## Units in line -/

/-- The collateral unit of a basket is in line, and is the one reported. Collateral that has not
been entered is reported as it stands. -/
structure Record.CollateralAligned (r : Record) (holder : Address) (b : Basket) (bal : Balances)
    (collateralUnit : PositionUnit) : Prop where
  collateral : r.entered = true →
    (b.externalUnit r.params.collateralAsset holder).value.toInt =
      (bal.collateral.toNat * Amount.one.toNat / b.supply.toNat : Nat)
  reportedCollateral : collateralUnit =
    if r.entered then b.externalUnit r.params.collateralAsset holder
    else b.defaultUnit r.params.collateralAsset

/-- **The units of a basket are in line** with its balances, and are the ones reported. -/
structure Record.Aligned (r : Record) (holder : Address) (b : Basket) (bal : Balances)
    (collateralUnit borrowUnit : PositionUnit) : Prop
    extends r.CollateralAligned holder b bal collateralUnit where
  supply : 0 < b.supply.toNat
  debt : (b.externalUnit r.params.loanAsset holder).value.toInt =
    -((bal.borrow.toNat * Amount.one.toNat) ⌈/⌉ b.supply.toNat : Nat)
  reportedDebt : borrowUnit = b.externalUnit r.params.loanAsset holder

/-- The basket of this address is in line on this chain, for the module `holder`. -/
def Record.AlignedOn (r : Record) (holder basket : Address) (c : Chain)
    (collateralUnit borrowUnit : PositionUnit) : Prop :=
  ∃ b bal, c.baskets.get? basket = some b ∧ r.balances c basket = .ok bal ∧
    r.Aligned holder b bal collateralUnit borrowUnit

/-- The units reported are those of the basket, which are in line with what the desk remembers. -/
def Errand.InLine (k : Errand) (records : FiniteMap Address Record)
    (collateralUnit borrowUnit : PositionUnit) (s : Session) : Prop :=
  ∃ r, records.get? k.basket = some r ∧
    r.AlignedOn k.holder k.basket s.chain collateralUnit borrowUnit

/-! ## Units after writes -/

section Units

variable {address : Address} {p : Position} {c c' : Chain} {b b' : Basket}

/-- What stands behind a basket's positions is not a matter of positions. -/
theorem Record.balances_wrote (r : Record) (h : Chain.Wrote address p c c') (basket : Address) :
    r.balances c' basket = r.balances c basket := by
  obtain ⟨b₀, ps, -, -, rfl⟩ := h
  rfl

/-- Once the collateral unit is in line, writing the debt unit puts the basket in line: the loan
asset is not the collateral, so the one write does not touch the other. -/
theorem Record.CollateralAligned.alignedOn {r : Record} {holder : Address} {bal : Balances}
    {collateralUnit borrowUnit : PositionUnit}
    (h : r.CollateralAligned holder b bal collateralUnit)
    (hr : r.params.collateralAsset ≠ r.params.loanAsset) (hc : c.Tidy)
    (hb : c.baskets.get? address = some b) (hbal : r.balances c address = .ok bal)
    (hunit : PositionUnit.ofDebt bal.borrow b.supply = .ok borrowUnit)
    (hwrote : Chain.Wrote address (.ofExternal r.params.loanAsset holder borrowUnit) c c') :
    r.AlignedOn holder address c' collateralUnit borrowUnit := by
  obtain ⟨b', hb', hsupply, hexternals, hdefaults⟩ := hwrote.external hc hb
  obtain ⟨hpos, hdebt⟩ := PositionUnit.ofDebt_eq_ok hunit
  have hloan : b'.externalUnit r.params.loanAsset holder = borrowUnit := by
    rw [hexternals, if_pos ⟨rfl, rfl⟩]
  have hexternal : b'.externalUnit r.params.collateralAsset holder =
      b.externalUnit r.params.collateralAsset holder := by
    rw [hexternals, if_neg fun h => hr h.1]
  refine ⟨b', bal, hb', (r.balances_wrote hwrote address).trans hbal,
    ⟨⟨?_, ?_⟩, ?_, ?_, hloan.symm⟩⟩
  · rw [hexternal, hsupply]
    exact h.collateral
  · rw [hexternal, hdefaults]
    exact h.reportedCollateral
  · rw [hsupply]
    exact hpos
  · rw [hloan, hsupply]
    exact hdebt

end Units

/-! ## Writing positions (`LeverageModule::write_positions`) -/

namespace Errand

variable {k : Errand} {d : Desk} {records : FiniteMap Address Record} {s : Session}

theorem writePosition_spec {p : Position} {q : BasketRequest} (hq : k.Serves (.basket k.basket q))
    (hperform : q.perform k.basket = do let _ ← Chain.writePosition k.basket p)
    (hs : k.Follows records s) :
    (((do let _ ← ledger (Chain.writePosition k.basket p)) : Operation Unit).run s).Ends
      (fun _ s' => k.Follows records s' ∧ Chain.Wrote k.basket p s.chain s'.chain)
      fun e _ => k.Blames e := by
  have hconduct : k.Conducts records (ledger (Chain.writePosition k.basket p)) :=
    conducts_ledger hq fun c => by
      rw [ChainRequest.through, hperform, Action.through_forget]
  have hwrote : ((ledger (Chain.writePosition k.basket p)).run s).Ends
      (fun _ s' => Chain.Wrote k.basket p s.chain s'.chain) fun _ _ => True := by
    rw [Operation.ends_ledger]
    exact (Chain.writePosition_spec k.basket p s.chain).imp (fun _ _ h => h) fun _ _ _ => trivial
  rw [Action.ends_bind]
  exact ((hconduct s hs).and hwrote).imp (fun _ _ h => h) fun _ _ h => h.1

theorem writeExternal_spec (hd : d.address = k.holder) (component : Address) (unit : PositionUnit)
    (hs : k.Follows records s) :
    ((writeExternal d k.basket component unit).run s).Ends
      (fun _ s' => k.Follows records s' ∧
        Chain.Wrote k.basket (.ofExternal component k.holder unit) s.chain s'.chain)
      fun e _ => k.Blames e := by
  rw [writeExternal, hd]
  exact writePosition_spec (.writeExternal component unit) rfl hs

theorem writeDefault_spec (component : Address) (unit : PositionUnit) (hs : k.Follows records s) :
    ((writeDefault k.basket component unit).run s).Ends
      (fun _ s' => k.Follows records s' ∧
        Chain.Wrote k.basket (.ofDefault component unit) s.chain s'.chain)
      fun e _ => k.Blames e :=
  writePosition_spec (.writeDefault component unit) rfl hs

/-- The errand's basket, with the supply it had at the start. -/
theorem Moved.basket {c : Chain} (h : k.Moved c) {supply : Amount}
    (hsupply : supplyOn k.start k.basket = some supply) :
    ∃ b, c.baskets.get? k.basket = some b ∧ b.supply = supply :=
  Option.map_eq_some_iff.1 ((h.supply k.basket).trans hsupply)

/-- What stands behind a basket's positions can be told unless a sum does not fit or the pool has
no such market. -/
theorem blames_balances {c : Chain} (hc : k.Moved c) {r : Record} (hr : r.Sound k.known)
    {basket : Address} {e : LeverageError} (h : r.balances c basket = .error e) : k.Blames e := by
  unfold Record.balances at h
  rcases Except.bind_eq_error.1 h with h | ⟨totals, -, h⟩
  · unfold Lending.Pool.totals at h
    split at h
    · cases h
    case h_2 hnone =>
      obtain rfl := Except.error.inj h
      rw [hr.market] at hnone ⊢
      exact blames_marketNotCreated hc hr.known hnone
  · -- all that is left is arithmetic
    have hmath {α : Type} {x : Except MathError α}
        (hx : x.mapError LeverageError.math = .error e) : k.Blames e := by
      cases x with
      | ok => cases hx
      | error =>
        obtain rfl := Except.error.inj hx
        exact blames_other rfl
    rcases Except.bind_eq_error.1 h with h | ⟨borrow, -, h⟩
    · exact hmath h
    · rcases Except.bind_eq_error.1 h with h | ⟨collateral, -, h⟩
      · exact hmath h
      · cases h

theorem writeDebt_spec (hd : d.address = k.holder) (r : Record) (borrow supply : Amount)
    (hs : k.Follows records s) :
    ((writeDebt d k.basket r borrow supply).run s).Ends
      (fun unit s' => k.Follows records s' ∧ PositionUnit.ofDebt borrow supply = .ok unit ∧
        Chain.Wrote k.basket (.ofExternal r.params.loanAsset k.holder unit) s.chain s'.chain)
      fun e _ => k.Blames e := by
  rw [writeDebt, Action.ends_bind, Operation.ends_compute]
  refine ⟨fun unit hunit => ?_, fun _ _ => blames_other rfl⟩
  rw [Action.ends_bind]
  exact (writeExternal_spec hd r.params.loanAsset unit hs).imp
    (fun _ _ h => ⟨h.1, hunit, h.2⟩) fun _ _ h => h

/-- With the collateral unit in line, writing the debt unit brings the basket in line, and what is
reported are the units that stand there. -/
theorem writeDebt_alignedOn (hd : d.address = k.holder) {r : Record} (hr : r.Sound k.known)
    {supply : Amount} (hsupply : supplyOn k.start k.basket = some supply)
    {collateralUnit : PositionUnit} {bal : Balances} {b : Basket} (hs : k.Follows records s)
    (hbal : r.balances s.chain k.basket = .ok bal)
    (hb : s.chain.baskets.get? k.basket = some b)
    (haligned : r.CollateralAligned k.holder b bal collateralUnit) :
    ((do
      let borrowUnit ← writeDebt d k.basket r bal.borrow supply
      pure ⟨supply, collateralUnit, borrowUnit, bal.collateral, bal.borrow⟩ :
        Operation SyncReport).run s).Ends
      (fun report s' => k.Follows records s' ∧
        r.AlignedOn k.holder k.basket s'.chain report.collateralUnit report.borrowUnit)
      fun e _ => k.Blames e := by
  obtain ⟨b₀, hb₀, rfl⟩ := hs.chain.basket hsupply
  obtain rfl : b = b₀ := Option.some.inj (hb.symm.trans hb₀)
  rw [Action.ends_bind]
  apply (writeDebt_spec hd r bal.borrow b.supply hs).imp
  · rintro borrowUnit s₁ ⟨hs₁, hunit, hwrote⟩
    exact ⟨hs₁, haligned.alignedOn hr.distinct hs.chain.tidy hb hbal hunit hwrote⟩
  · intro e s₁ h
    exact h

/-- **Rewriting both positions** brings a basket in line and reports the units it wrote. -/
theorem writePositions_spec (hd : d.address = k.holder) {r : Record} (hr : r.Sound k.known)
    {supply : Amount} (hsupply : supplyOn k.start k.basket = some supply)
    (hs : k.Follows records s) :
    ((writePositions d k.basket r supply).run s).Ends
      (fun report s' => k.Follows records s' ∧
        r.AlignedOn k.holder k.basket s'.chain report.collateralUnit report.borrowUnit)
      fun e _ => k.Blames e := by
  rw [writePositions, Action.ends_bind, Operation.ends_balancesOf]
  refine ⟨fun bal hbal => ?_, fun e he => blames_balances hs.chain hr he⟩
  -- the debt comes last, whichever way the collateral goes
  obtain ⟨b, hb, hbsupply⟩ := hs.chain.basket hsupply
  cases hentered : r.entered with
  | true =>
    simp only [if_true, Action.ends_bind, Operation.ends_compute]
    refine ⟨fun unit hunit => ?_, fun _ _ => blames_other rfl⟩
    refine (writeExternal_spec hd r.params.collateralAsset unit hs).imp ?_ fun _ _ h => h
    rintro _ s₁ ⟨hs₁, hwrote⟩
    obtain ⟨b₁, hb₁, hsupply₁, hexternals, -⟩ := hwrote.external hs.chain.tidy hb
    have hcollateral : b₁.externalUnit r.params.collateralAsset k.holder = unit := by
      rw [hexternals, if_pos ⟨rfl, rfl⟩]
    have haligned : r.CollateralAligned k.holder b₁ bal unit := by
      refine ⟨fun _ => ?_, ?_⟩
      · rw [hcollateral, hsupply₁, hbsupply]
        exact (PositionUnit.ofHolding_eq_ok hunit).2
      · rw [hentered, if_pos rfl, hcollateral]
    have hbal₁ : r.balances s₁.chain k.basket = .ok bal :=
      (r.balances_wrote hwrote k.basket).trans hbal
    exact Action.ends_bind.1 (writeDebt_alignedOn hd hr hsupply hs₁ hbal₁ hb₁ haligned)
  | false =>
    simp only [Bool.false_eq_true, if_false, Action.ends_bind, Operation.ends_ledger,
      Chain.ends_theBasket]
    refine ⟨fun b' hb' => ?_, fun _ => blames_other rfl⟩
    have haligned : r.CollateralAligned k.holder b' bal
        (b'.defaultUnit r.params.collateralAsset) := by
      refine ⟨fun h => ?_, ?_⟩
      · rw [hentered] at h
        cases h
      · simp [hentered]
    exact Action.ends_bind.1 (writeDebt_alignedOn hd hr hsupply hs hbal hb' haligned)

end Errand

end LeveredBasket.Leverage
