/-
Arithmetic that cannot go wrong.

An amount may be too large for its width, and no operation can do anything about
that. But nothing is ever divided by zero, and but for one case nothing is ever
taken from less than it: whatever an operation calculates is defined (`Defined`) by
the time that it is calculated. A supply divides only after something has been found
not to be zero that is a multiple of it, or after it has been asked for itself; a
fee is a part of what arrived, because the desk honours none above the whole; and
the pool counts the shares of a market and those of its accounts alike
(`Bank.Counts`).

The one case is a component hook (`LeverageModule::component_redeem_hook`) that is
to bring the debt unit up to date for a redemption of more tokens than there are:
the supply that would be left is less than nothing
(`BasketOperation.RedeemsBeyondSupply`).
-/
import LeveredBasket.Proofs.Lending.Shares
import LeveredBasket.Proofs.Leverage.Steps

set_option autoImplicit false

namespace LeveredBasket.Leverage

open Lending (Bank MarketParams)

/-- **More tokens are to be redeemed than there are**, for a debt whose unit is to be brought up to
date. -/
def BasketOperation.RedeemsBeyondSupply (basket : Address) (w : World) :
    BasketOperation → Prop
  | redeemHook _ quantity _ isEquity => isEquity = false ∧ w.desk.settings.syncOnHook = true ∧
      ∃ b, w.chain.baskets.get? basket = some b ∧ b.supply < quantity
  | _ => False

def DeskRequest.RedeemsBeyondSupply (w : World) : DeskRequest → Prop
  | basket address operation => operation.RedeemsBeyondSupply address w
  | _ => False

/-- Balances can be told unless there is no market or a number does not fit. -/
theorem Record.balances_eq_error (r : Record) {c : Chain} {basket : Address} {e : LeverageError}
    (h : r.balances c basket = .error e) :
    AtMostOverflow .math e ∧ ∀ m, e ≠ .lending (.math m) := by
  rcases Except.bind_eq_error.1 h with h | ⟨totals, -, h⟩
  · obtain ⟨e', htotals, rfl⟩ := Except.mapError_eq_error.1 h
    unfold Lending.Pool.totals at htotals
    split at htotals
    · cases htotals
    · cases htotals
      simp
  rcases Except.bind_eq_error.1 h with h | ⟨borrow, -, h⟩
  · obtain ⟨e', he', rfl⟩ := Except.mapError_eq_error.1 h
    obtain rfl := Share.toAssets_defined _ _ _ _ e' he'
    simp
  rcases Except.bind_eq_error.1 h with h | ⟨collateral, -, h⟩
  · obtain ⟨e', he', rfl⟩ := Except.mapError_eq_error.1 h
    obtain rfl := Amount.add_defined _ _ e' he'
    simp
  · cases h

namespace Operation

/-- **What the operation calculates is defined**: if it is refused for a calculation of its own, a
number does not fit. -/
abbrev Calculates {α : Type} (x : Operation α) : Prop :=
  x.Leads (fun _ => True) fun e _ => AtMostOverflow .math e

/-- The same, where the value is known to be such that `G` holds. -/
abbrev CalculatesTo {α : Type} (G : α → Prop) (x : Operation α) : Prop :=
  x.Reaches (fun _ => True) (fun e _ => AtMostOverflow .math e) fun a _ => G a

variable {α β : Type} {d : Desk} {caller basket : Address} {r : Record} {supply : Amount}
  {s : Session}

/-! ## Steps -/

theorem calculatesTo_compute {x : Except MathError α} (hx : Defined x) :
    CalculatesTo (fun a => x = .ok a) (compute x) := by
  intro s _
  rw [ends_compute]
  refine ⟨fun a ha => ⟨trivial, ha⟩, fun e he => ?_⟩
  rintro _ ⟨⟩
  exact hx e he

theorem calculates_compute {x : Except MathError α} (hx : Defined x) : Calculates (compute x) :=
  (calculatesTo_compute hx).leads

theorem calculatesTo_require (p : Prop) [Decidable p] {e : LeverageError}
    (he : AtMostOverflow .math e) : CalculatesTo (fun _ => p) (.require p e) :=
  .require p fun _ _ => he

theorem calculates_require (p : Prop) [Decidable p] {e : LeverageError}
    (he : AtMostOverflow .math e) : Calculates (.require p e) := (calculatesTo_require p he).leads

theorem calculates_orRefuse {e : LeverageError} (he : AtMostOverflow .math e) (x : Option α) :
    Calculates (.orRefuse e x) := .orRefuse (fun _ _ => he) x

theorem calculates_modify (f : Session → Session) : Calculates (.modify f) := fun _ _ => trivial

/-- What another part of the chain refuses, for whatever reason, is no calculation of the desk's. -/
theorem calculates_onChain {ε : Type} {refusal : ε → LeverageError}
    (hrefusal : ∀ e, AtMostOverflow .math (refusal e)) (x : Action Chain ε α) :
    Calculates (onChain refusal x) := by
  intro s _
  rw [onChain, Action.ends_mapError]
  exact Outcome.ends_of (fun _ _ => trivial) fun e _ => hrefusal e

theorem calculates_ledger (x : Chain.Call α) : Calculates (ledger x) :=
  calculates_onChain (by simp) x

theorem calculates_lending (x : Bank.Call α) : Calculates (lending x) :=
  calculates_onChain (by simp) _

theorem calculates_exchange (x : Action Chain Exchange.ExchangeError α) :
    Calculates (exchange x) := calculates_onChain (by simp) x

/-- After a step that has come to `P`, the rest has to be seen from there. -/
theorem Calculates.ends_bind {x : Operation β} {f : β → Operation α} {P : β → Session → Prop}
    {E : LeverageError → Session → Prop} (hx : Calculates x) (hP : (x.run s).Yields P)
    (hE : ∀ e s', AtMostOverflow .math e → E e s')
    (hf : ∀ b s', P b s' → ((f b).run s').Ends (fun _ _ => True) E) :
    ((x >>= f).run s).Ends (fun _ _ => True) E := by
  rw [Action.ends_bind]
  refine ((hx s trivial).and hP).imp ?_ ?_
  · rintro b s' ⟨-, hb⟩
    exact hf b s' hb
  · rintro e s' ⟨he, -⟩
    exact hE e s' he

/-! ## Looking things up -/

theorem calculates_requireManager (caller basket : Address) :
    Calculates (requireManager caller basket) := by
  refine .bind (.read _) fun _ => .bind (calculates_require _ (by simp)) fun _ => ?_
  exact .bind (calculates_ledger _) fun _ => calculates_require _ (by simp)

theorem calculates_recordOf (d : Desk) (basket : Address) : Calculates (recordOf d basket) := by
  refine .bind (.read _) fun _ => .bind (calculates_require _ (by simp)) fun _ => ?_
  exact .bind (.read _) fun _ => calculates_orRefuse (by simp) _

theorem calculates_enteredRecord (d : Desk) (caller basket : Address) :
    Calculates (enteredRecord d caller basket) := by
  refine .bind (calculates_requireManager caller basket) fun _ => ?_
  refine .bind (calculates_recordOf d basket) fun r => ?_
  exact .bind (calculates_require _ (by simp)) fun _ => .pure _

theorem calculates_requireIssuer (caller basket : Address) :
    Calculates (requireIssuer caller basket) := by
  refine .bind (.read _) fun _ => .bind (calculates_require _ (by simp)) fun _ => ?_
  refine .bind (.read _) fun _ => .bind (calculates_require _ (by simp)) fun _ => ?_
  refine .bind (.read _) fun found => ?_
  cases found with
  | some r => exact calculates_require _ (by simp)
  | none => exact .pure ()

theorem calculates_requireStatus (basket holder : Address) (status : ModuleStatus)
    {e : LeverageError} (he : AtMostOverflow .math e) :
    Calculates (requireStatus basket holder status e) :=
  .bind (.read _) fun _ => calculates_require _ he

theorem calculates_supplyOf (basket : Address) : Calculates (supplyOf basket) :=
  .bind (calculates_ledger _) fun _ => .pure _

theorem calculates_balancesOf (r : Record) (basket : Address) :
    Calculates (balancesOf r basket) := by
  intro s _
  rw [ends_balancesOf]
  exact ⟨fun _ _ => trivial, fun e he => (r.balances_eq_error he).1⟩

theorem calculates_debtUnit (d : Desk) (r : Record) (basket component : Address) :
    Calculates (debtUnit d r basket component) := by
  refine .bind (calculates_require _ (by simp)) fun _ => ?_
  refine .bind (calculates_ledger _) fun b => ?_
  exact .bind (calculates_require _ (by simp)) fun _ => .pure _

/-! ## Units -/

theorem calculates_writeExternal (d : Desk) (basket component : Address) (unit : PositionUnit) :
    Calculates (writeExternal d basket component unit) :=
  .bind (calculates_ledger _) fun _ => .pure _

theorem calculates_writeDefault (basket component : Address) (unit : PositionUnit) :
    Calculates (writeDefault basket component unit) :=
  .bind (calculates_ledger _) fun _ => .pure _

theorem calculates_writeDebt (hsupply : supply ≠ 0) (d : Desk) (basket : Address) (r : Record)
    (borrow : Amount) : Calculates (writeDebt d basket r borrow supply) := by
  refine .bind (calculates_compute (PositionUnit.ofDebt_defined borrow hsupply)) fun unit => ?_
  exact .bind (calculates_writeExternal d basket _ unit) fun _ => .pure _

/-- **Units are only calculated for a supply.** -/
theorem calculates_writePositions (hsupply : supply ≠ 0) (d : Desk) (basket : Address)
    (r : Record) : Calculates (writePositions d basket r supply) := by
  refine .bind (calculates_balancesOf r basket) fun balances => ?_
  have hdebt (collateralUnit : PositionUnit) : Calculates (do
      let borrowUnit ← writeDebt d basket r balances.borrow supply
      pure (⟨supply, collateralUnit, borrowUnit, balances.collateral, balances.borrow⟩ :
        SyncReport)) :=
    .bind (calculates_writeDebt hsupply d basket r _) fun _ => .pure _
  refine .ite (fun _ => ?_) fun _ => .bind (calculates_ledger _) fun b => hdebt _
  refine .bind (calculates_compute (PositionUnit.ofHolding_defined _ hsupply)) fun unit => ?_
  exact .bind (calculates_writeExternal d basket _ unit) fun _ => hdebt _

theorem calculates_syncPositions (d : Desk) (basket : Address) (r : Record) :
    Calculates (syncPositions d basket r) := by
  refine .bind (calculates_supplyOf basket) fun supply => .ite (fun _ => .pure _) fun hsupply => ?_
  refine .bind (calculates_lending _) fun _ => ?_
  refine .bind (calculates_writePositions hsupply d basket r) fun report => ?_
  exact .bind (calculates_modify _) fun _ => .pure _

theorem calculates_syncDebtForSupply (d : Desk) (basket : Address) (r : Record)
    (supply : Amount) : Calculates (syncDebtForSupply d basket r supply) := by
  refine .ite (fun _ => .pure _) fun hsupply => .bind (calculates_lending _) fun _ => ?_
  refine .bind (calculates_balancesOf r basket) fun balances => ?_
  refine .bind (calculates_writeDebt hsupply d basket r _) fun borrowUnit => ?_
  refine .bind (calculates_ledger _) fun b => ?_
  refine .bind (calculates_compute (PositionUnit.notionalSize_defined _ _)) fun notional => ?_
  exact calculates_modify _

/-! ## Trades (`LeverageModule::execute_trade`) -/

/-- **Whoever trades a part of the supply has a supply**: what is to be sent is not zero. -/
theorem plan_scaled {b : Basket} {units quantity : Amount}
    (hb : s.chain.baskets.get? basket = some b)
    (hquantity : Amount.preciseMul units b.supply = .ok quantity) (d : Desk)
    (send receive : Address) (minimum : Amount) (adapterName : String) :
    ((plan d basket send receive quantity minimum adapterName).run s).Ends
      (fun p _ => p.supply ≠ 0) fun e _ => AtMostOverflow .math e := by
  simp only [plan, walletOf, Action.ends_bind, Action.ends_require, Action.ends_read,
    Action.ends_ofExcept, ends_supplyOf, Action.run_pure, Outcome.ends_done]
  refine ⟨fun hsend => ⟨fun adapter _ => ⟨fun b' hb' hnone => hsend ?_, fun _ => ?_⟩,
    fun e he => ?_⟩, fun _ => by simp⟩
  · -- a part of no supply would be nothing, which may not be sent
    obtain rfl := Option.some.inj (hb.symm.trans hb')
    apply Word.ext
    rw [(Amount.mulDivDown_eq_ok.1 hquantity).2, hnone]
    simp
  · simp
  · obtain ⟨e', -, rfl⟩ := Except.mapError_eq_error.1 he
    simp

/-- To scale by the supply is to know the supply, and what it comes to, in the state from where the
rest is run. -/
theorem calculatesTo_scaled {units : Amount} {f : Amount → Amount → Operation α} {G : α → Prop}
    (hf : ∀ s b quantity, s.chain.baskets.get? basket = some b →
      Amount.preciseMul units b.supply = .ok quantity →
      ((f b.supply quantity).run s).Ends (fun a _ => G a) fun e _ => AtMostOverflow .math e) :
    CalculatesTo G (do
      let supply ← supplyOf basket
      let quantity ← compute (Amount.preciseMul units supply)
      f supply quantity) := by
  intro s _
  rw [Action.ends_bind, ends_supplyOf]
  refine ⟨fun b hb => ?_, fun _ => by simp⟩
  rw [Action.ends_bind, ends_compute]
  refine ⟨fun quantity hquantity => ?_, fun e he => ?_⟩
  · exact (hf s b quantity hb hquantity).imp (fun _ _ ha => ⟨trivial, ha⟩) fun _ _ he => he
  · rintro _ ⟨⟩
    exact Amount.preciseMul_defined _ _ e he

theorem calculatesTo_planPerToken (d : Desk) (basket send receive : Address)
    (units minimum : Amount) (adapterName : String) : CalculatesTo (fun p => p.supply ≠ 0)
      (planPerToken d basket send receive units minimum adapterName) := by
  refine calculatesTo_scaled fun s b quantity hb hquantity => ?_
  rw [Action.ends_bind, ends_compute]
  refine ⟨fun least _ => plan_scaled hb hquantity d send receive least adapterName, fun e he => ?_⟩
  rintro _ ⟨⟩
  exact Amount.preciseMulUp_defined _ _ e he

theorem calculates_trade (p : TradePlan) (route : Bytes) : Calculates (trade p route) := by
  refine .bind (calculates_ledger _) fun _ => ?_
  refine .bind (.ofExcept fun e _ he _ => ?_) fun call => .bind (calculates_exchange _) fun _ => ?_
  · obtain ⟨e', -, rfl⟩ := Except.mapError_eq_error.1 he
    simp
  · exact .bind (.read _) fun _ => .bind (calculates_require _ (by simp)) fun _ => .pure _

/-- **A fee is a part of what arrived**, because the desk honours none above the whole. -/
theorem calculatesTo_chargeFee (hcap : d.settings.maxFee.value ≤ BasisPoints.whole.value)
    (basket asset : Address) (amount : Amount) :
    CalculatesTo (fun fee => fee.toNat ≤ amount.toNat) (chargeFee d basket asset amount) := by
  refine Action.Leads.reaches (.read _) fun rate => ?_
  refine Action.Reaches.bind (calculatesTo_require _ (by simp)) fun _ hrate => ?_
  refine Action.Reaches.bind (calculatesTo_compute (rate.apply_defined amount)) fun fee hfee => ?_
  have hle : fee.toNat ≤ amount.toNat := BasisPoints.apply_le (Nat.le_trans hrate hcap) hfee
  refine .ite (fun _ => .pure fun _ _ => hle) fun _ => ?_
  refine Action.Leads.reaches (.read _) fun recipient => ?_
  exact Action.Leads.reaches (calculates_ledger _) fun _ => .pure fun _ _ => hle

/-- What is left of what arrived is never less than nothing. -/
theorem calculates_net (hcap : d.settings.maxFee.value ≤ BasisPoints.whole.value)
    (basket asset : Address) (received : Amount) {f : Amount → Amount → Operation α}
    (hf : ∀ fee net, Calculates (f fee net)) : Calculates (do
      let fee ← chargeFee d basket asset received
      let net ← compute (received.sub fee)
      f fee net) := by
  refine (calculatesTo_chargeFee hcap basket asset received).bind_leads fun fee hfee => ?_
  refine .bind (calculates_compute fun e he => ?_) fun net => hf fee net
  exact absurd he (Amount.sub_ne_error_of_le hfee)

/-! ## Enrolling and letting go -/

theorem calculates_enrol (caller basket : Address) (params : MarketParams) (d : Desk) :
    Calculates (enrol caller basket params d) := by
  refine .bind (calculates_requireManager caller basket) fun _ => ?_
  refine .bind (calculates_requireStatus _ _ _ (by simp)) fun _ => ?_
  refine .bind (.read _) fun _ => .bind (calculates_require _ (by simp)) fun _ => ?_
  refine .bind (calculates_require _ (by simp)) fun _ => ?_
  refine .bind (calculates_require _ (by simp)) fun _ => ?_
  refine .bind (.read _) fun _ => .bind (calculates_orRefuse (by simp) _) fun issuer => ?_
  refine .bind (calculates_requireStatus _ _ _ (by simp)) fun _ => ?_
  refine .bind (calculates_lending _) fun _ => .bind (calculates_ledger _) fun _ => ?_
  refine .bind (calculates_ledger _) fun _ => .bind (calculates_modify _) fun _ => ?_
  exact calculates_modify _

theorem calculates_registerIssuer (caller basket issuer : Address) (d : Desk) :
    Calculates (registerIssuer caller basket issuer d) := by
  refine .bind (calculates_requireManager caller basket) fun _ => ?_
  refine .bind (calculates_recordOf d basket) fun r => ?_
  refine .bind (calculates_requireStatus _ _ _ (by simp)) fun _ => ?_
  refine .bind (calculates_ledger _) fun _ => .bind (calculates_modify _) fun _ => ?_
  exact calculates_modify _

theorem calculates_restoreCollateral (d : Desk) (r : Record) (basket : Address) :
    Calculates (restoreCollateral d r basket) := by
  refine .bind (calculates_writeExternal d basket _ _) fun _ => ?_
  refine .bind (calculates_supplyOf basket) fun supply => .ite (fun _ => .pure _) fun hsupply => ?_
  refine .bind (.read _) fun held => ?_
  refine .bind (calculates_compute (PositionUnit.ofHolding_defined held hsupply)) fun unit => ?_
  exact calculates_writeDefault basket _ unit

theorem calculates_release (d : Desk) (r : Record) (basket : Address) (withdrawn : Amount) :
    Calculates (release d r basket withdrawn) := by
  have hforget : Calculates (do
      .modify fun s =>
        { s with
          chain := r.issuers.foldl (fun c issuer => c.dropHook issuer basket d.address) s.chain
          records := s.records.erase basket }
      emit (.moduleRemoved basket withdrawn)
      pure withdrawn) :=
    .bind (calculates_modify _) fun _ => .bind (calculates_modify _) fun _ => .pure _
  refine .bind (calculates_writeExternal d basket _ _) fun _ => .ite (fun _ => ?_) fun _ => hforget
  exact .bind (calculates_restoreCollateral d r basket) fun _ => hforget

theorem calculates_letGo (caller basket : Address) (d : Desk) :
    Calculates (letGo caller basket d) := by
  rw [letGo_eq]
  refine .bind (calculates_require _ (by simp)) fun _ => .bind (.read _) fun _ => ?_
  refine .bind (calculates_orRefuse (by simp) _) fun r => .bind (calculates_lending _) fun _ => ?_
  refine .bind (.read _) fun account => .bind (calculates_require _ (by simp)) fun _ => ?_
  have hrelease := calculates_release d r basket account.collateral
  exact .ite (fun _ => hrelease) fun _ => .bind (calculates_lending _) fun _ => hrelease

/-! ## Levering (`LeverageModule::lever`) -/

/-- What is entered is a part of the supply too. -/
theorem calculates_enter (caller basket : Address) (d : Desk) :
    Calculates (Operation.enter caller basket d) := by
  refine .bind (calculates_requireManager caller basket) fun _ => ?_
  refine .bind (calculates_recordOf d basket) fun r => ?_
  refine .bind (calculates_require _ (by simp)) fun _ => .bind (calculates_ledger _) fun b => ?_
  refine .bind (calculates_require _ (by simp)) fun _ => ?_
  refine (calculatesTo_compute (PositionUnit.notionalSize_defined _ _)).bind_leads
    fun notional hnotional => ?_
  refine (calculatesTo_require _ (by simp)).bind_leads fun _ hsome => ?_
  -- what is entered is so much for each token, and is not nothing
  have hsupply : b.supply ≠ 0 := by
    intro hnone
    apply hsome
    apply Word.ext
    rw [PositionUnit.notionalSize_eq_ok hnotional, hnone]
    simp
  refine .bind (calculates_lending _) fun _ => ?_
  refine .bind (calculates_writeDefault basket _ _) fun _ => .bind (calculates_modify _) fun _ => ?_
  refine .bind (calculates_writePositions hsupply d basket _) fun report => ?_
  exact .bind (calculates_modify _) fun _ => .pure _

theorem calculates_lever (hcap : d.settings.maxFee.value ≤ BasisPoints.whole.value)
    (caller basket : Address) (borrowUnits minReceiveUnits : Amount) (adapterName : String)
    (route : Bytes) :
    Calculates (Operation.lever caller basket borrowUnits minReceiveUnits adapterName route d) := by
  refine .bind (calculates_enteredRecord d caller basket) fun r => ?_
  refine .bind (calculates_lending _) fun _ => ?_
  refine (calculatesTo_planPerToken d basket _ _ _ _ _).bind_leads fun p hp => ?_
  refine .bind (calculates_lending _) fun borrowed => ?_
  refine .bind (calculates_trade p route) fun received => ?_
  refine calculates_net hcap basket _ received fun fee net => ?_
  have hreport : Calculates (do
      let report ← writePositions d basket r p.supply
      emit (.leverageIncreased ⟨basket, r.params.loanAsset, r.params.collateralAsset,
        p.adapterName, borrowed.assets, received, fee⟩)
      pure (⟨borrowed.assets, received, fee, net, report.collateralUnit, report.borrowUnit⟩ :
        LeverReport)) :=
    .bind (calculates_writePositions hp d basket r) fun _ => .bind (calculates_modify _) fun _ =>
      .pure _
  exact .ite (fun _ => hreport) fun _ => .bind (calculates_lending _) fun _ => hreport

/-! ## Delevering -/

theorem calculates_repayCapped (r : Record) (basket : Address) (available : Amount) :
    Calculates (repayCapped r basket available) := by
  refine .bind (calculates_balancesOf r basket) fun balances => .ite (fun _ => .pure _) fun _ => ?_
  exact .bind (calculates_lending _) fun _ => .pure _

theorem calculates_sellCollateral (hcap : d.settings.maxFee.value ≤ BasisPoints.whole.value)
    (r : Record) (p : TradePlan) (route : Bytes) : Calculates (sellCollateral d r p route) := by
  refine .bind (calculates_lending _) fun _ => .bind (calculates_trade p route) fun received => ?_
  exact calculates_net hcap p.basket _ received fun fee net => .pure _

theorem calculates_finishDelever {p : TradePlan} (hp : p.supply ≠ 0) (d : Desk) (r : Record)
    (received fee repaid : Amount) : Calculates (finishDelever d r p received fee repaid) := by
  refine .bind (.bind (.read _) fun residual => ?_) fun residual => ?_
  · refine .bind (calculates_compute (PositionUnit.ofHolding_defined residual hp)) fun unit => ?_
    exact .bind (calculates_writeDefault _ _ unit) fun _ => .pure _
  refine .bind (calculates_writePositions hp d _ r) fun report => .bind (.read _) fun account => ?_
  refine .bind (calculates_modify _) fun _ => .ite (fun _ => ?_) fun _ => .pure _
  exact .bind (calculates_modify _) fun _ => .pure _

theorem calculates_delever (hcap : d.settings.maxFee.value ≤ BasisPoints.whole.value)
    (caller basket : Address) (redeemUnits minRepayUnits : Amount) (adapterName : String)
    (route : Bytes) :
    Calculates (Operation.delever caller basket redeemUnits minRepayUnits adapterName route d) := by
  refine .bind (calculates_enteredRecord d caller basket) fun r => ?_
  refine .bind (calculates_lending _) fun _ => ?_
  refine (calculatesTo_planPerToken d basket _ _ _ _ _).bind_leads fun p hp => ?_
  refine .bind (calculates_sellCollateral hcap r p route) fun sold => ?_
  refine .bind (calculates_repayCapped r basket _) fun repaid => ?_
  exact calculates_finishDelever hp d r _ _ _

theorem calculates_deleverToZero (hcap : d.settings.maxFee.value ≤ BasisPoints.whole.value)
    (caller basket : Address) (redeemUnits : Amount) (adapterName : String) (route : Bytes) :
    Calculates (Operation.deleverToZero caller basket redeemUnits adapterName route d) := by
  refine .bind (calculates_enteredRecord d caller basket) fun r => ?_
  refine .bind (calculates_lending _) fun _ => ?_
  refine .bind (calculates_balancesOf r basket) fun balances => ?_
  refine .bind (calculates_require _ (by simp)) fun _ => ?_
  refine (calculatesTo_scaled (G := fun _ => True) fun s b quantity hb hquantity => ?_).leads
  -- that there is a supply is seen from the quantity, in the session where both are worked out
  rw [Action.ends_bind]
  refine (plan_scaled hb hquantity d _ _ _ _).imp ?_ fun _ _ he => he
  intro p s₁ hp
  refine Action.Leads.bind (calculates_sellCollateral hcap r p route) (fun sold => ?_) s₁ trivial
  refine .bind (calculates_require _ (by simp)) fun _ => ?_
  exact .bind (calculates_lending _) fun moved => calculates_finishDelever hp d r _ _ _

/-! ## Hooks -/

theorem calculates_sync (d : Desk) (basket : Address) : Calculates (do
    let r ← recordOf d basket
    syncPositions d basket r) :=
  .bind (calculates_recordOf d basket) fun r => calculates_syncPositions d basket r

theorem calculates_moduleHook (caller basket : Address) (d : Desk) :
    Calculates (Operation.moduleHook caller basket d) :=
  .bind (calculates_requireIssuer caller basket) fun _ => calculates_sync d basket

/-- Component hooks end alike, and are refused there for nothing but a number that does not fit,
unless the supply that there will be cannot be told. -/
theorem ends_hookEnd (d : Desk) (basket : Address) (adjust : Amount → Except MathError Amount)
    {E : LeverageError → Session → Prop} (hE : ∀ e s', AtMostOverflow .math e → E e s')
    (hadjust : d.settings.syncOnHook = true → ∀ b e, s.chain.baskets.get? basket = some b →
      adjust b.supply = .error e → E (.math e) s)
    (r : Record) (payload : EventPayload) (value : Amount) : ((do
      if d.settings.syncOnHook then do
        let supply ← supplyOf basket
        let adjusted ← compute (adjust supply)
        syncDebtForSupply d basket r adjusted
      else pure ()
      emit payload
      pure value : Operation Amount).run s).Ends (fun _ _ => True) E := by
  have hsay : Calculates (do emit payload; pure value) :=
    .bind (calculates_modify _) fun _ => .pure _
  rw [Action.ends_ite]
  refine ⟨fun hsync => ?_, fun _ => (hsay s trivial).imp (fun _ _ h => h) fun e s' => hE e s'⟩
  rw [Action.ends_bind, ends_supplyOf]
  refine ⟨fun b hb => ?_, fun _ => hE _ _ (by simp)⟩
  rw [Action.ends_bind, ends_compute]
  refine ⟨fun adjusted _ => ?_, fun e he => hadjust hsync b e hb he⟩
  have hrest : Calculates (do syncDebtForSupply d basket r adjusted; emit payload; pure value) :=
    .bind (calculates_syncDebtForSupply d basket r adjusted) fun _ => hsay
  exact (hrest s trivial).imp (fun _ _ h => h) fun e s' => hE e s'

theorem calculates_issueHook (caller basket : Address) (quantity : Amount) (component : Address)
    (isEquity : Bool) (d : Desk) :
    Calculates (Operation.issueHook caller basket quantity component isEquity d) := by
  refine .bind (calculates_requireIssuer caller basket) fun _ => ?_
  refine .bind (calculates_recordOf d basket) fun r => .ite (fun _ => .pure _) fun _ => ?_
  refine .bind (calculates_debtUnit d r basket component) fun unit => ?_
  refine .bind (calculates_compute (PositionUnit.notionalSize_defined _ _)) fun notional => ?_
  have hend : Calculates _ := fun s _ => ends_hookEnd d basket (Amount.add · quantity)
    (fun _ _ he => he)
    (fun _ b e _ he => by
      rintro _ ⟨⟩
      exact Amount.add_defined _ _ e he)
    r (.issueHookBorrowed ⟨basket, component, quantity, notional⟩) notional
  exact .ite (fun _ => hend) fun _ => .bind (calculates_lending _) fun _ => hend

/-- **A redemption of more tokens than there are** is the one case in which a supply falls below
zero. Up to there nothing has been done but to repay, which leaves the supply alone. -/
theorem redeemHook_ends (caller basket : Address) (quantity : Amount) (component : Address)
    (isEquity : Bool) (d : Desk) (s : Session) :
    ((Operation.redeemHook caller basket quantity component isEquity d).run s).Ends
      (fun _ _ => True) fun e _ => AtMostOverflow .math e ∨ e = .math .underflow ∧
        isEquity = false ∧ d.settings.syncOnHook = true ∧
          ∃ b, s.chain.baskets.get? basket = some b ∧ b.supply < quantity := by
  rw [Operation.redeemHook]
  refine (calculates_requireIssuer caller basket).ends_bind
    (requireIssuer_yields caller basket s) (fun _ _ => .inl) ?_
  rintro _ _ rfl
  refine (calculates_recordOf d basket).ends_bind (recordOf_yields d basket _) (fun _ _ => .inl) ?_
  rintro r s ⟨rfl, -⟩
  rw [Action.ends_ite]
  refine ⟨fun _ => trivial, fun hdebt => ?_⟩
  refine (calculates_debtUnit d r basket component).ends_bind
    (debtUnit_yields d r basket component s) (fun _ _ => .inl) ?_
  rintro unit s ⟨rfl, -⟩
  refine (calculates_compute (PositionUnit.notionalSizeUp_defined _ _)).ends_bind
    (compute_yields _ s) (fun _ _ => .inl) ?_
  rintro owed s ⟨-, rfl⟩
  refine (calculates_repayCapped r basket owed).ends_bind
    (repayCapped_yields r basket owed s) (fun _ _ => .inl) ?_
  rintro repaid s₁ ⟨bal, -, hrepaid⟩
  have hbaskets : s₁.chain.baskets = s.chain.baskets := by
    obtain ⟨-, -, rfl⟩ | ⟨-, moved, b, -, -, rfl⟩ := hrepaid
    · rfl
    · rfl
  refine ends_hookEnd d basket (Amount.sub · quantity) (fun _ _ => .inl) ?_ r
    (.redeemHookRepaid ⟨basket, component, quantity, repaid⟩) repaid
  intro hsync b e hb he
  rw [hbaskets] at hb
  obtain ⟨rfl, hlt⟩ := Amount.sub_eq_error he
  exact .inr ⟨rfl, Bool.eq_false_iff.2 hdebt, hsync, b, hb, hlt⟩

end Operation

/-! ## Requests -/

/-- What is defined in a session is defined in the world, whatever else may be wrong there. -/
theorem Operation.Calculates.operate {α : Type} {op : Desk → Operation α} {w : World}
    (h : Operation.Calculates (op w.desk)) (P : LeverageError → Prop) :
    ((World.operate op).run w).Ends (fun _ _ => True) fun e _ => AtMostOverflow .math e ∨ P e :=
  ends_operate ((h _ trivial).imp (fun _ _ _ _ => trivial) fun _ _ => .inl)

/-- **What an operation on a basket calculates is defined**, unless it redeems more tokens than
there are. -/
theorem BasketOperation.calculates {w : World}
    (hcap : w.desk.settings.maxFee.value ≤ BasisPoints.whole.value) (basket : Address)
    (operation : BasketOperation) :
    ((operation.perform basket).run w).Ends (fun _ _ => True)
      fun e _ => AtMostOverflow .math e ∨
        e = .math .underflow ∧ operation.RedeemsBeyondSupply basket w := by
  cases operation with
  | setAllowed caller allowed => simp [perform, World.setAllowed, World.changeAllowList]
  | enrol caller params => exact (Operation.calculates_enrol caller basket params _).operate _
  | registerIssuer caller issuer =>
    exact (Operation.calculates_registerIssuer caller basket issuer _).operate _
  | letGo caller => exact ends_forget ((Operation.calculates_letGo caller basket _).operate _)
  | enter caller => exact ends_forget ((Operation.calculates_enter caller basket _).operate _)
  | lever caller borrowUnits minReceiveUnits adapterName route =>
    exact ends_forget ((Operation.calculates_lever hcap caller basket borrowUnits minReceiveUnits
      adapterName route).operate _)
  | delever caller redeemUnits minRepayUnits adapterName route =>
    exact ends_forget ((Operation.calculates_delever hcap caller basket redeemUnits minRepayUnits
      adapterName route).operate _)
  | deleverToZero caller redeemUnits adapterName route =>
    exact ends_forget ((Operation.calculates_deleverToZero hcap caller basket redeemUnits
      adapterName route).operate _)
  | sync => exact ends_forget ((Operation.calculates_sync _ basket).operate _)
  | moduleHook caller =>
    exact ends_forget ((Operation.calculates_moduleHook caller basket _).operate _)
  | issueHook caller quantity component isEquity =>
    exact ends_forget ((Operation.calculates_issueHook caller basket quantity component isEquity
      _).operate _)
  | redeemHook caller quantity component isEquity =>
    exact ends_forget (ends_operate ((Operation.redeemHook_ends caller basket quantity component
      isEquity _ _).imp (fun _ _ _ _ => trivial) fun _ _ h => h))

theorem DeskRequest.calculates {w : World}
    (hcap : w.desk.settings.maxFee.value ≤ BasisPoints.whole.value) (r : DeskRequest) :
    (r.perform.run w).Ends (fun _ _ => True)
      fun e _ => AtMostOverflow .math e ∨ e = .math .underflow ∧ r.RedeemsBeyondSupply w := by
  cases r with
  | setTime time => trivial
  | advanceTime delay => simp [perform, World.advanceTime, World.setTime]
  | setAnyAllowed caller anyAllowed => simp [perform, World.setAnyAllowed, World.changeAllowList]
  | basket address operation => exact operation.calculates hcap address

/-- What the pool refuses within an operation, it does not refuse for anything undefined either. -/
theorem World.Reachable.lending_calculates {w w' : World} (hw : w.Reachable) {r : DeskRequest}
    {e : Lending.LendingError} (h : r.perform.run w = .refused (.lending e) w') :
    AtMostOverflow .math e := by
  obtain ⟨basket, c, q, b, hc, -, hq⟩ :=
    DeskRequest.refused_by_pool hw.orderly (fun _ _ => trivial) h
  have hbalanced := Lending.balanced_of_moves hc (Lending.balanced_of_reachable hw)
  exact ((q.counts _ hbalanced).refused hq).2

/-- Settings that are valid honour no fee above the whole. -/
theorem Settings.maxFee_le_whole {s s' : Settings} (h : s.validate = .ok s') :
    s.maxFee.value ≤ BasisPoints.whole.value := by
  unfold Settings.validate at h
  split at h
  · cases h
  split at h
  · cases h
  case isFalse hcap => exact Nat.le_of_not_lt fun hlt => hcap (decide_eq_true hlt)

/-- **Arithmetic does not go wrong.** With valid settings, no request to the desk is refused because
something was divided by zero, by the desk or by the pool, nor because the pool took shares from
less. The desk takes from less only where more tokens are to be redeemed than there are, and the
debt unit is to be brought up to date for it. Balances that are only looked at are not refused for
any of this either. -/
theorem World.Reachable.arithmetic_sound {w : World} (hw : w.Reachable) {settings : Settings}
    (hsettings : w.desk.settings.validate = .ok settings) :
    (∀ (r : DeskRequest) e w', r.perform.run w = .refused e w' →
      e ≠ .math .divisionByZero ∧ e ≠ .lending (.math .divisionByZero) ∧
        e ≠ .lending (.math .underflow) ∧ (e = .math .underflow → r.RedeemsBeyondSupply w)) ∧
      ∀ basket e, w.desk.balances w.chain basket = .error e →
        e ≠ .math .divisionByZero ∧ e ≠ .math .underflow ∧ ∀ m, e ≠ .lending (.math m) := by
  constructor
  · intro r e w' h
    obtain hcalculates | ⟨rfl, hbeyond⟩ :=
      (r.calculates (Settings.maxFee_le_whole hsettings)).refused h
    · have hlending (e' : Lending.LendingError) (he : e = .lending e') : AtMostOverflow .math e' :=
        hw.lending_calculates (he ▸ h)
      refine ⟨fun he => ?_, fun he => ?_, fun he => ?_, fun he => ?_⟩
      · cases hcalculates _ he
      · cases hlending _ he _ rfl
      · cases hlending _ he _ rfl
      · cases hcalculates _ he
    · exact ⟨by simp, by simp, by simp, fun _ => hbeyond⟩
  · intro basket e h
    unfold Desk.balances at h
    split at h
    · cases h
      simp
    case h_2 r _ =>
      obtain ⟨hmath, hlending⟩ := r.balances_eq_error h
      refine ⟨fun he => ?_, fun he => ?_, hlending⟩
      · cases hmath _ he
      · cases hmath _ he

open Deployment in
/-- So it is once the basket of the reference deployment is levered and has the loan asset to repay
with: of two tokens, where there is one, the debt is repaid, but they cannot be taken from the
supply. -/
theorem World.arithmetic_sound_of_paying : ∃ (w w' : World) (r : DeskRequest),
    World.runs paying (start .production) = some w ∧
      r = .basket basket (.redeemHook orchestrator (number 2_000_000_000_000_000_000) usdc false) ∧
      r.perform.run w = .refused (.math .underflow) w' ∧ r.RedeemsBeyondSupply w := by
  have hrun : ((World.runs paying (start .production)).map fun w =>
      decide (w.desk.settings = .production) &&
        ((DeskRequest.basket basket (.redeemHook orchestrator (number 2_000_000_000_000_000_000)
          usdc false)).perform.run w).isRefusedWith fun e _ => e = .math .underflow) =
      some true := by decide +kernel
  obtain ⟨w, hw, hrefused⟩ := Option.map_eq_some_iff.1 hrun
  obtain ⟨hsettings, hrefused⟩ := Bool.and_eq_true_iff.1 hrefused
  obtain ⟨e, w', hrefused, he⟩ := Outcome.exists_of_isRefusedWith hrefused
  obtain rfl := of_decide_eq_true he
  have hreachable : w.Reachable := ⟨pool, router, feeRecipient, holder, owner, .production, _, hw⟩
  have hvalid : w.desk.settings.validate = .ok .production := by
    rw [of_decide_eq_true hsettings]
    rfl
  obtain ⟨-, -, -, hbeyond⟩ :=
    (World.Reachable.arithmetic_sound hreachable hvalid).1 _ _ _ hrefused
  exact ⟨w, w', _, hw, rfl, hrefused, hbeyond rfl⟩

end LeveredBasket.Leverage
