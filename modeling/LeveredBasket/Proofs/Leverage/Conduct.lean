/-
What each operation of a desk (`LeverageModule`) comes to.

Every operation stays on its errand: what it does to the chain is a list of
requests for its basket. Operations that rewrite a basket's positions leave the
basket in line and report the units they wrote. Each operation has one statement,
put together from those of its steps.
-/
import LeveredBasket.Leverage.Enrolment
import LeveredBasket.Leverage.Issuance
import LeveredBasket.Proofs.Leverage.Reconcile

set_option autoImplicit false

namespace LeveredBasket.Leverage

open Lending (Bank MarketParams RepayAmount)
open Operation (ledger lending exchange compute emit keep balancesOf supplyOf walletOf
  requireManager recordOf requireIssuer requireStatus enteredRecord plan planPerToken trade
  chargeFee writeExternal writeDefault writeDebt writePositions emitSynced syncPositions
  syncDebtForSupply repayCapped writeResidual sellCollateral finishDelever debtUnit
  restoreCollateral)

namespace Operation

/-- **The last of letting go**, once the collateral is back: the positions are put right, and the
basket is forgotten. -/
def release (d : Desk) (r : Record) (basket : Address) (withdrawn : Amount) :
    Operation Amount := do
  writeExternal d basket r.params.loanAsset .zero
  if r.entered then restoreCollateral d r basket else pure ()
  .modify fun s =>
    { s with
      chain := r.issuers.foldl (fun c issuer => c.dropHook issuer basket d.address) s.chain
      records := s.records.erase basket }
  emit (.moduleRemoved basket withdrawn)
  pure withdrawn

/-- Letting go withdraws the collateral, if there is any, and releases the basket. -/
theorem letGo_eq (caller basket : Address) (d : Desk) : letGo caller basket d = (do
    .require (caller = basket) (.notBasket caller basket)
    let found ← .read (·.records.get? basket)
    let r ← .orRefuse (.notInitialized basket) found
    lending (Bank.accrue r.params)
    let account ← .read (·.chain.pool.account r.market basket)
    .require (account.borrowShares = 0) (.borrowOutstanding account.borrowShares)
    if account.collateral = 0 then pure ()
    else lending (Bank.withdrawCollateral r.params basket account.collateral basket)
    release d r basket account.collateral) := rfl

end Operation

namespace Errand

variable {k : Errand} {d : Desk} {records : FiniteMap Address Record} {r : Record}

/-! ## Looking things up -/

theorem conducts_theBasket : k.Conducts records (ledger (Chain.theBasket k.basket)) := by
  apply conducts_ledger_read
  intro c b c' h
  have hends : ((Chain.theBasket k.basket).run c).Ends (fun _ d => d = c) fun _ _ => True := by
    rw [Chain.ends_theBasket]
    exact ⟨fun _ _ => rfl, fun _ => trivial⟩
  exact hends.done h

/-- The supply is what it was at the start. -/
theorem attains_supplyOf : k.Attains records
    (fun supply _ => supplyOn k.start k.basket = some supply) (supplyOf k.basket) := by
  intro s hs
  rw [supplyOf, Action.ends_bind, Operation.ends_ledger, Chain.ends_theBasket]
  refine ⟨fun b hb => ⟨hs, ?_⟩, fun _ => blames_other rfl⟩
  rw [← hs.chain.supply, supplyOn, hb]
  rfl

theorem conducts_balancesOf (hr : r.Sound k.known) :
    k.Conducts records (balancesOf r k.basket) := by
  intro s hs
  rw [Operation.ends_balancesOf]
  constructor
  · intro bal _
    exact hs
  · intro e he
    exact blames_balances hs.chain hr he

theorem conducts_requireManager (caller : Address) :
    k.Conducts records (requireManager caller k.basket) := by
  refine .bind (.read _) fun _ => .bind (conducts_require _ rfl) fun _ => ?_
  exact .bind conducts_theBasket fun _ => conducts_require _ rfl

/-- What is looked up among the records is what is remembered. -/
theorem attains_find : k.Attains records (fun found _ => found = records.get? k.basket)
    (.read (·.records.get? k.basket)) := by
  intro s hs
  rw [Action.ends_read, hs.records]
  exact ⟨hs, rfl⟩

/-- The record that an operation works with is the one that is remembered. -/
theorem attains_recordOf (d : Desk) : k.Attains records
    (fun r _ => records.get? k.basket = some r) (recordOf d k.basket) := by
  refine Action.Leads.reaches (.read _) fun _ => Action.Leads.reaches (conducts_require _ rfl) ?_
  rintro -
  refine attains_find.bind ?_
  rintro _ rfl
  exact attains_orRefuse _ rfl

theorem conducts_requireIssuer (caller : Address) :
    k.Conducts records (requireIssuer caller k.basket) := by
  refine .bind (.read _) fun _ => .bind (conducts_require _ rfl) fun _ => ?_
  refine .bind (.read _) fun _ => .bind (conducts_require _ rfl) fun _ => ?_
  refine .bind (.read _) fun found => ?_
  cases found with
  | none => exact .pure _
  | some r => exact conducts_require _ rfl

/-- A record is worked with only once it is entered. -/
theorem attains_enteredRecord (caller : Address) : k.Attains records
    (fun r _ => records.get? k.basket = some r) (enteredRecord d caller k.basket) := by
  refine Action.Leads.reaches (conducts_requireManager caller) fun _ => ?_
  refine (attains_recordOf d).bind fun r hr => ?_
  exact Action.Leads.reaches (conducts_require _ rfl) fun _ => .pure fun _ _ => hr

/-! ## Calls on the pool -/

theorem conducts_supplyCollateral {params : MarketParams} (h : params ∈ k.known)
    (amount : Amount) :
    k.Conducts records (lending (Bank.supplyCollateral params k.basket amount)) :=
  conducts_lending (.supplyCollateral h amount) bind_pure_unit.symm

theorem conducts_withdrawCollateral {params : MarketParams} (h : params ∈ k.known)
    (amount : Amount) :
    k.Conducts records (lending (Bank.withdrawCollateral params k.basket amount k.basket)) :=
  conducts_lending (.withdrawCollateral h amount) bind_pure_unit.symm

theorem conducts_borrow {params : MarketParams} (h : params ∈ k.known) (amount : Amount) :
    k.Conducts records (lending (Bank.borrow params k.basket amount k.basket)) :=
  conducts_lending (.borrow h amount) rfl

theorem conducts_repay {params : MarketParams} (h : params ∈ k.known) (amount : RepayAmount) :
    k.Conducts records (lending (Bank.repay params k.basket amount)) :=
  conducts_lending (.repay h amount) rfl

/-! ## Trades (`LeverageModule::execute_trade`) -/

/-- A trade is planned for the errand's basket, at the supply it had at the start. -/
theorem attains_plan (d : Desk) (send receive : Address) (sendQuantity minReceive : Amount)
    (adapterName : String) : k.Attains records
    (fun p _ => p.basket = k.basket ∧ supplyOn k.start k.basket = some p.supply)
    (plan d k.basket send receive sendQuantity minReceive adapterName) := by
  refine Action.Leads.reaches (conducts_require _ rfl) fun _ => ?_
  refine Action.Leads.reaches (.read _) fun resolved => ?_
  refine Action.Leads.reaches (conducts_quoted resolved) fun adapter => ?_
  refine attains_supplyOf.bind fun supply hsupply => ?_
  exact Action.Leads.reaches (.read _) fun _ => .pure fun _ _ => ⟨rfl, hsupply⟩

theorem attains_planPerToken (d : Desk) (send receive : Address)
    (sendUnits minReceiveUnits : Amount) (adapterName : String) : k.Attains records
    (fun p _ => p.basket = k.basket ∧ supplyOn k.start k.basket = some p.supply)
    (planPerToken d k.basket send receive sendUnits minReceiveUnits adapterName) := by
  refine attains_supplyOf.bind fun supply _ => ?_
  refine Action.Leads.reaches (conducts_compute _) fun sendQuantity => ?_
  refine Action.Leads.reaches (conducts_compute _) fun minReceive => ?_
  exact attains_plan d send receive sendQuantity minReceive adapterName

theorem conducts_tradeOf {p : TradePlan} (hp : p.basket = k.basket) (route : Bytes) :
    k.Conducts records (trade p route) := by
  rw [trade, hp]
  refine .bind (conducts_ledger (.approve p.sendAsset p.adapter.spender p.sendQuantity)
    fun _ => rfl) fun _ => ?_
  refine .bind (conducts_quoted _) fun call => ?_
  refine .bind (conducts_trade call) fun _ => .bind (.read _) fun _ => ?_
  exact .bind (conducts_require _ rfl) fun _ => .pure _

theorem conducts_chargeFee (d : Desk) (asset : Address) (amount : Amount) :
    k.Conducts records (chargeFee d k.basket asset amount) := by
  refine .bind (.read _) fun rate => .bind (conducts_require _ rfl) fun _ => ?_
  refine .bind (conducts_compute _) fun fee => .ite (fun _ => .pure _) fun _ => ?_
  refine .bind (.read _) fun recipient => .bind ?_ fun _ => .pure _
  exact conducts_ledger (.transfer asset recipient fee) fun _ => rfl

/-! ## Positions (`position::write_position`) -/

theorem conducts_writeExternal (hd : d.address = k.holder) (component : Address)
    (unit : PositionUnit) : k.Conducts records (writeExternal d k.basket component unit) := by
  intro s hs
  apply (writeExternal_spec hd component unit hs).imp
  · rintro _ s' ⟨hs', -⟩
    exact hs'
  · intro e s' h
    exact h

theorem conducts_writeDefault (component : Address) (unit : PositionUnit) :
    k.Conducts records (writeDefault k.basket component unit) := by
  intro s hs
  apply (writeDefault_spec component unit hs).imp
  · rintro _ s' ⟨hs', -⟩
    exact hs'
  · intro e s' h
    exact h

theorem attains_writePositions (hd : d.address = k.holder)
    (hrecords : SoundRecords k.known records) (hr : records.get? k.basket = some r)
    {supply : Amount} (hsupply : supplyOn k.start k.basket = some supply) : k.Attains records
    (fun report => k.InLine records report.collateralUnit report.borrowUnit)
    (writePositions d k.basket r supply) := by
  intro s hs
  apply (writePositions_spec hd (hrecords k.basket r hr) hsupply hs).imp
  · rintro report s' ⟨hs', haligned⟩
    exact ⟨hs', r, hr, haligned⟩
  · intro e s' h
    exact h

/-- Saying something changes neither the chain nor the records. -/
theorem ends_emit {α : Type} {payload : EventPayload} {x : Operation α} {s : Session}
    {Q : α → Session → Prop} {E : LeverageError → Session → Prop} :
    ((do emit payload; x : Operation α).run s).Ends Q E ↔
      (x.run { s with events := s.events ++ [payload] }).Ends Q E := by
  rw [Action.ends_bind, emit, Action.ends_modify]

theorem InLine.say {collateralUnit borrowUnit : PositionUnit} {s : Session}
    (h : k.InLine records collateralUnit borrowUnit s) (events : List EventPayload) :
    k.InLine records collateralUnit borrowUnit { s with events := events } := h

/-- Positions are rewritten, something is said about it, and the units are reported: that is how
most operations end. -/
theorem attains_report (hd : d.address = k.holder) (hrecords : SoundRecords k.known records)
    (hr : records.get? k.basket = some r) {supply : Amount}
    (hsupply : supplyOn k.start k.basket = some supply) {α : Type}
    (payload : SyncReport → EventPayload) (value : SyncReport → α) {Q : α → Session → Prop}
    (hQ : ∀ report s, k.InLine records report.collateralUnit report.borrowUnit s →
      Q (value report) s) :
    k.Attains records Q (do
      let report ← writePositions d k.basket r supply
      emit (payload report)
      pure (value report)) := by
  intro s hs
  rw [Action.ends_bind]
  refine (attains_writePositions hd hrecords hr hsupply s hs).imp ?_ fun _ _ h => h
  rintro report s₁ ⟨hs₁, hline⟩
  exact ends_emit.2 ⟨hs₁.chain_eq _, hQ report _ (hline.say _)⟩

/-- **Synchronizing** accrues interest and brings the basket in line. -/
theorem attains_syncPositions (hd : d.address = k.holder)
    (hrecords : SoundRecords k.known records) (hr : records.get? k.basket = some r) :
    k.Attains records
      (fun found s' => ∀ report, found = some report →
        k.InLine records report.collateralUnit report.borrowUnit s')
      (syncPositions d k.basket r) := by
  refine attains_supplyOf.bind fun supply hsupply => .ite (fun _ => .pure fun _ _ => ?_) fun _ => ?_
  -- without supply there is no report
  · rintro _ ⟨⟩
  refine Action.Leads.reaches (conducts_accrue (hrecords _ _ hr).known) fun _ => ?_
  refine attains_report hd hrecords hr hsupply _ _ fun report s hline => ?_
  rintro _ ⟨⟩
  exact hline

theorem conducts_syncDebtForSupply (hd : d.address = k.holder) (hr : r.Sound k.known)
    (supply : Amount) : k.Conducts records (syncDebtForSupply d k.basket r supply) := by
  refine .ite (fun _ => .pure _) fun _ => .bind (conducts_accrue hr.known) fun _ => ?_
  refine .bind (conducts_balancesOf hr) fun balances => .bind (fun s hs => ?_) fun _ => ?_
  · exact (writeDebt_spec hd r balances.borrow supply hs).imp (fun _ _ h => h.1) fun _ _ h => h
  refine .bind conducts_theBasket fun b => .bind (conducts_compute _) fun notional => ?_
  exact conducts_emit _

/-! ## Entering (`LeverageModule::enter_collateral_position`) -/

/-- After a step that stays on the errand, the rest of an operation is looked at from a session that
is still on it. -/
theorem Conducts.andThen {α β : Type} {x : Operation β} {f : β → Operation α} {s : Session}
    {Q : α → Session → Prop} (hx : k.Conducts records x) (hs : k.Follows records s)
    (hf : ∀ b s', k.Follows records s' → ((f b).run s').Ends Q fun e _ => k.Blames e) :
    ((x >>= f).run s).Ends Q fun e _ => k.Blames e := by
  rw [Action.ends_bind]
  apply (hx s hs).imp
  · intro b s' hs'
    exact hf b s' hs'
  · intro e s' he
    exact he

/-- **Entering** moves the collateral into the market and brings the basket in line, entered. -/
theorem enter_spec (hd : d.address = k.holder) (hrecords : SoundRecords k.known records)
    (caller : Address) {s : Session} (hs : k.Follows records s) :
    ((Operation.enter caller k.basket d).run s).Ends
      (fun report s' => ∃ r, r.Sound k.known ∧ k.Follows (records.insert k.basket r) s' ∧
        k.InLine (records.insert k.basket r) report.collateralUnit report.borrowUnit s')
      fun e _ => k.Blames e := by
  refine Conducts.andThen (conducts_requireManager caller) hs fun _ s₁ hs₁ => ?_
  rw [Action.ends_bind]
  refine (attains_recordOf d s₁ hs₁).imp ?_ fun _ _ h => h
  rintro r s₂ ⟨hs₂, hr⟩
  have hsound := hrecords k.basket r hr
  refine Conducts.andThen (conducts_require _ rfl) hs₂ fun _ s₃ hs₃ => ?_
  -- the basket that is read has the supply of the start
  rw [Action.ends_bind, Operation.ends_ledger, Chain.ends_theBasket]
  refine ⟨fun b hb => ?_, fun _ => blames_other rfl⟩
  have hsupply : supplyOn k.start k.basket = some b.supply := by
    rw [← hs₃.chain.supply, supplyOn, hb]
    rfl
  refine Conducts.andThen (conducts_require _ rfl) hs₃ fun _ s₄ hs₄ => ?_
  refine Conducts.andThen (conducts_compute _) hs₄ fun notional s₅ hs₅ => ?_
  refine Conducts.andThen (conducts_require _ rfl) hs₅ fun _ s₆ hs₆ => ?_
  -- the collateral goes from the wallet into the market, and its default position to zero
  refine Conducts.andThen (conducts_supplyCollateral hsound.known notional) hs₆
    fun _ s₇ hs₇ => ?_
  refine Conducts.andThen (conducts_writeDefault _ _) hs₇ fun _ s₈ hs₈ => ?_
  -- the record is kept as entered before the positions are rewritten, so both units are written
  have hentered := hsound.entered true
  have hkept : k.Follows (records.insert k.basket { r with entered := true })
      { s₈ with records := s₈.records.insert k.basket { r with entered := true } } :=
    ⟨hs₈.chain, by rw [hs₈.records]⟩
  rw [Action.ends_bind, keep, Action.ends_modify]
  refine Outcome.Ends.imp (attains_report hd (hrecords.insert hentered)
    (records.get?_insert_self k.basket _) hsupply _ _ (fun report s hline => ?_) _ hkept)
    (fun report s' h => ⟨_, hentered, h⟩) fun _ _ h => h
  exact hline

/-! ## Levering (`LeverageModule::lever`) -/

/-- **Levering** brings the basket in line. -/
theorem attains_lever (hd : d.address = k.holder) (hrecords : SoundRecords k.known records)
    (caller : Address) (borrowUnits minReceiveUnits : Amount) (adapterName : String)
    (route : Bytes) : k.Attains records
    (fun report => k.InLine records report.collateralUnit report.borrowUnit)
    (Operation.lever caller k.basket borrowUnits minReceiveUnits adapterName route d) := by
  refine (attains_enteredRecord caller).bind fun r hr => ?_
  have hknown := (hrecords k.basket r hr).known
  refine Action.Leads.reaches (conducts_accrue hknown) fun _ => ?_
  refine (attains_planPerToken d _ _ _ _ _).bind fun p hp => ?_
  refine Action.Leads.reaches (conducts_borrow hknown p.sendQuantity) fun borrowed => ?_
  refine Action.Leads.reaches (conducts_tradeOf hp.1 route) fun received => ?_
  refine Action.Leads.reaches (conducts_chargeFee d _ received) fun fee => ?_
  refine Action.Leads.reaches (conducts_compute _) fun net => ?_
  have hreport := attains_report hd hrecords hr hp.2
    (fun _ => .leverageIncreased ⟨k.basket, r.params.loanAsset, r.params.collateralAsset,
      p.adapterName, borrowed.assets, received, fee⟩)
    (fun report => (⟨borrowed.assets, received, fee, net, report.collateralUnit,
      report.borrowUnit⟩ : LeverReport))
    (Q := fun report => k.InLine records report.collateralUnit report.borrowUnit)
    fun report s hline => hline
  -- if the fee has taken all, there is nothing to supply
  refine .ite (fun _ => hreport) fun _ => ?_
  exact Action.Leads.reaches (conducts_supplyCollateral hknown net) fun _ => hreport

/-! ## Delevering -/

theorem conducts_repayCapped (hr : r.Sound k.known) (available : Amount) :
    k.Conducts records (repayCapped r k.basket available) := by
  refine .bind (conducts_balancesOf hr) fun balances => .ite (fun _ => .pure _) fun _ => ?_
  exact .bind (conducts_repay hr.known _) fun _ => .pure _

theorem conducts_writeResidual (r : Record) (supply : Amount) :
    k.Conducts records (writeResidual r k.basket supply) := by
  refine .bind (.read _) fun residual => .bind (conducts_compute _) fun unit => ?_
  exact .bind (conducts_writeDefault _ unit) fun _ => .pure _

theorem conducts_sellCollateral (hr : r.Sound k.known) {p : TradePlan}
    (hp : p.basket = k.basket) (route : Bytes) :
    k.Conducts records (sellCollateral d r p route) := by
  rw [sellCollateral, hp]
  refine .bind (conducts_withdrawCollateral hr.known p.sendQuantity) fun _ => ?_
  refine .bind (conducts_tradeOf hp route) fun received => ?_
  refine .bind (conducts_chargeFee d p.receiveAsset received) fun fee => ?_
  exact .bind (conducts_compute _) fun net => .pure _

/-- What both ways down end with brings the basket in line. -/
theorem attains_finishDelever (hd : d.address = k.holder)
    (hrecords : SoundRecords k.known records) (hr : records.get? k.basket = some r)
    {p : TradePlan} (hp : p.basket = k.basket)
    (hsupply : supplyOn k.start k.basket = some p.supply) (received fee repaid : Amount) :
    k.Attains records (fun report => k.InLine records report.collateralUnit report.borrowUnit)
      (finishDelever d r p received fee repaid) := by
  rw [finishDelever, hp]
  refine Action.Leads.reaches (conducts_writeResidual r p.supply) fun residual s hs => ?_
  rw [Action.ends_bind]
  refine (attains_writePositions hd hrecords hr hsupply s hs).imp ?_ fun _ _ h => h
  rintro report s₁ ⟨hs₁, hline⟩
  -- what is said after the positions are written changes nothing that they depend on
  rw [Action.ends_bind, Action.ends_read, ends_emit, Action.ends_ite]
  exact ⟨fun _ => ends_emit.2 ⟨hs₁.chain_eq _, hline⟩, fun _ => ⟨hs₁.chain_eq _, hline⟩⟩

/-- **Delevering** brings the basket in line. -/
theorem attains_delever (hd : d.address = k.holder) (hrecords : SoundRecords k.known records)
    (caller : Address) (redeemUnits minRepayUnits : Amount) (adapterName : String)
    (route : Bytes) : k.Attains records
    (fun report => k.InLine records report.collateralUnit report.borrowUnit)
    (Operation.delever caller k.basket redeemUnits minRepayUnits adapterName route d) := by
  refine (attains_enteredRecord caller).bind fun r hr => ?_
  have hsound := hrecords k.basket r hr
  refine Action.Leads.reaches (conducts_accrue hsound.known) fun _ => ?_
  refine (attains_planPerToken d _ _ _ _ _).bind fun p hp => ?_
  refine Action.Leads.reaches (conducts_sellCollateral hsound hp.1 route) fun sold => ?_
  refine Action.Leads.reaches (conducts_repayCapped hsound sold.2.2) fun repaid => ?_
  exact attains_finishDelever hd hrecords hr hp.1 hp.2 sold.1 sold.2.1 repaid

/-- **Delevering to zero** brings the basket in line. -/
theorem attains_deleverToZero (hd : d.address = k.holder)
    (hrecords : SoundRecords k.known records) (caller : Address) (redeemUnits : Amount)
    (adapterName : String) (route : Bytes) : k.Attains records
    (fun report => k.InLine records report.collateralUnit report.borrowUnit)
    (Operation.deleverToZero caller k.basket redeemUnits adapterName route d) := by
  refine (attains_enteredRecord caller).bind fun r hr => ?_
  have hsound := hrecords k.basket r hr
  refine Action.Leads.reaches (conducts_accrue hsound.known) fun _ => ?_
  refine Action.Leads.reaches (conducts_balancesOf hsound) fun balances => ?_
  refine Action.Leads.reaches (conducts_require _ rfl) fun _ => ?_
  refine attains_supplyOf.bind fun supply _ => ?_
  refine Action.Leads.reaches (conducts_compute _) fun sendQuantity => ?_
  refine (attains_plan d _ _ _ _ _).bind fun p hp => ?_
  refine Action.Leads.reaches (conducts_sellCollateral hsound hp.1 route) fun sold => ?_
  refine Action.Leads.reaches (conducts_require _ rfl) fun _ => ?_
  refine Action.Leads.reaches (conducts_repay hsound.known _) fun moved => ?_
  exact attains_finishDelever hd hrecords hr hp.1 hp.2 sold.1 sold.2.1 moved.assets

/-! ## Synchronizing and hooks -/

theorem attains_sync (hd : d.address = k.holder) (hrecords : SoundRecords k.known records) :
    k.Attains records
      (fun found s' => ∀ report, found = some report →
        k.InLine records report.collateralUnit report.borrowUnit s')
      (do let r ← recordOf d k.basket
          syncPositions d k.basket r) :=
  (attains_recordOf d).bind fun _ hr => attains_syncPositions hd hrecords hr

theorem attains_moduleHook (hd : d.address = k.holder) (hrecords : SoundRecords k.known records)
    (caller : Address) : k.Attains records
      (fun found s' => ∀ report, found = some report →
        k.InLine records report.collateralUnit report.borrowUnit s')
      (Operation.moduleHook caller k.basket d) :=
  Action.Leads.reaches (conducts_requireIssuer caller) fun _ => attains_sync hd hrecords

theorem conducts_debtUnit (d : Desk) (r : Record) (component : Address) :
    k.Conducts records (debtUnit d r k.basket component) := by
  refine .bind (conducts_require _ rfl) fun _ => .bind conducts_theBasket fun b => ?_
  exact .bind (conducts_require _ rfl) fun _ => .pure _

/-- Component hooks end alike: the debt unit is brought up to date if the settings ask for it, and
something is said. -/
theorem conducts_hookEnd (hd : d.address = k.holder) (hr : r.Sound k.known)
    (adjust : Amount → Except MathError Amount) (payload : EventPayload) (value : Amount) :
    k.Conducts records (do
      if d.settings.syncOnHook then do
        let supply ← supplyOf k.basket
        let adjusted ← compute (adjust supply)
        syncDebtForSupply d k.basket r adjusted
      else pure ()
      emit payload
      pure value) := by
  have hsay : k.Conducts records (do emit payload; pure value) :=
    .bind (conducts_emit _) fun _ => .pure _
  refine .ite (fun _ => ?_) fun _ => hsay
  refine .bind attains_supplyOf.leads fun supply => .bind (conducts_compute _) fun adjusted => ?_
  exact .bind (conducts_syncDebtForSupply hd hr adjusted) fun _ => hsay

theorem conducts_issueHook (hd : d.address = k.holder) (hrecords : SoundRecords k.known records)
    (caller : Address) (quantity : Amount) (component : Address) (isEquity : Bool) :
    k.Conducts records
      (Operation.issueHook caller k.basket quantity component isEquity d) := by
  refine .bind (conducts_requireIssuer caller) fun _ => ?_
  refine (attains_recordOf d).bind_leads fun r hr => .ite (fun _ => .pure _) fun _ => ?_
  have hsound := hrecords k.basket r hr
  refine .bind (conducts_debtUnit d r component) fun unit => ?_
  refine .bind (conducts_compute _) fun notional => ?_
  have hend : k.Conducts records _ := conducts_hookEnd hd hsound (Amount.add · quantity)
    (.issueHookBorrowed ⟨k.basket, component, quantity, notional⟩) notional
  refine .ite (fun _ => hend) fun _ => ?_
  exact .bind (conducts_borrow hsound.known notional) fun _ => hend

theorem conducts_redeemHook (hd : d.address = k.holder)
    (hrecords : SoundRecords k.known records) (caller : Address) (quantity : Amount)
    (component : Address) (isEquity : Bool) :
    k.Conducts records
      (Operation.redeemHook caller k.basket quantity component isEquity d) := by
  refine .bind (conducts_requireIssuer caller) fun _ => ?_
  refine (attains_recordOf d).bind_leads fun r hr => .ite (fun _ => .pure _) fun _ => ?_
  have hsound := hrecords k.basket r hr
  refine .bind (conducts_debtUnit d r component) fun unit => ?_
  refine .bind (conducts_compute _) fun owed => ?_
  refine .bind (conducts_repayCapped hsound owed) fun repaid => ?_
  exact conducts_hookEnd hd hsound (Amount.sub · quantity)
    (.redeemHookRepaid ⟨k.basket, component, quantity, repaid⟩) repaid

/-! ## Enrolling and letting go -/

theorem conducts_requireStatus (basket holder : Address) (status : ModuleStatus)
    {e : LeverageError} (he : e.fromPool? = none) :
    k.Conducts records (requireStatus basket holder status e) :=
  .bind (.read _) fun _ => conducts_require _ he

/-- The pool is asked whether it has the market. -/
theorem conducts_market {params : MarketParams} (h : params ∈ k.known) :
    k.Conducts records (lending (Bank.market params)) := by
  intro s hs
  rw [lending, Operation.onChain, Action.ends_mapError, Action.ends_within, Chain.ends_onBank,
    Bank.market, Action.ends_bind, Action.ends_read, Action.ends_orRefuse]
  exact ⟨fun _ _ => hs, fun hnone => blames_marketNotCreated hs.chain h hnone⟩

section Closes

variable {α β : Type} {x : Operation β} {f : β → Operation α} {G : β → Prop}

theorem closes_bind (hx : k.Conducts records x) (hf : ∀ b, k.Closes records (f b)) :
    k.Closes records (x >>= f) := by
  intro s hs
  exact Conducts.andThen hx hs fun b s' hs' => hf b s' hs'

theorem closes_bind_of (hx : k.Attains records (fun b _ => G b) x)
    (hf : ∀ b, G b → k.Closes records (f b)) : k.Closes records (x >>= f) := by
  intro s hs
  rw [Action.ends_bind]
  apply (hx s hs).imp
  · rintro b s' ⟨hs', hb⟩
    exact hf b hb s' hs'
  · intro e s' he
    exact he

theorem closes_ite {p : Prop} [Decidable p] {y z : Operation α} (hy : k.Closes records y)
    (hz : k.Closes records z) : k.Closes records (if p then y else z) := by
  by_cases hp : p
  · rw [if_pos hp]
    exact hy
  · rw [if_neg hp]
    exact hz

end Closes

/-- A record that makes sense may be kept. -/
theorem closes_keep (hrecords : SoundRecords k.known records) (hr : r.Sound k.known)
    (payload : EventPayload) : k.Closes records (do keep k.basket r; emit payload) := by
  intro s hs
  rw [Action.ends_bind, keep, Action.ends_modify]
  refine ⟨records.insert k.basket r, hrecords.insert hr, hs.chain, ?_⟩
  rw [← hs.records]

theorem closes_enrol (hd : d.address = k.holder) (hrecords : SoundRecords k.known records)
    (caller : Address) {params : MarketParams} (hknown : params ∈ k.known) :
    k.Closes records (Operation.enrol caller k.basket params d) := by
  rw [Operation.enrol, hd]
  refine closes_bind (conducts_requireManager caller) fun _ => ?_
  refine closes_bind (conducts_requireStatus _ _ _ rfl) fun _ => ?_
  refine closes_bind (.read _) fun _ => closes_bind (conducts_require _ rfl) fun _ => ?_
  refine closes_bind (conducts_require _ rfl) fun _ => ?_
  refine closes_bind_of (.require _ fun _ _ => blames_other rfl) fun _ hdistinct => ?_
  refine closes_bind (.read _) fun _ => closes_bind (conducts_orRefuse _ rfl) fun issuer => ?_
  refine closes_bind (conducts_requireStatus _ _ _ rfl) fun _ => ?_
  refine closes_bind (conducts_market hknown) fun _ => ?_
  refine closes_bind (conducts_ledger .confirmModule fun _ => rfl) fun _ => ?_
  refine closes_bind (conducts_ledger (.registerHook issuer) fun _ => rfl) fun _ => ?_
  exact closes_keep hrecords ⟨hknown, rfl, hdistinct⟩ _

theorem closes_registerIssuer (hd : d.address = k.holder)
    (hrecords : SoundRecords k.known records) (caller issuer : Address) :
    k.Closes records (Operation.registerIssuer caller k.basket issuer d) := by
  rw [Operation.registerIssuer, hd]
  refine closes_bind (conducts_requireManager caller) fun _ => ?_
  refine closes_bind_of (attains_recordOf d) fun r hr => ?_
  refine closes_bind (conducts_requireStatus _ _ _ rfl) fun _ => ?_
  refine closes_bind (conducts_ledger (.registerHook issuer) fun _ => rfl) fun _ => ?_
  exact closes_keep hrecords ((hrecords k.basket r hr).issuers _) _

theorem conducts_restoreCollateral (hd : d.address = k.holder) (r : Record) :
    k.Conducts records (restoreCollateral d r k.basket) := by
  refine .bind (conducts_writeExternal hd _ _) fun _ => ?_
  refine .bind attains_supplyOf.leads fun supply => .ite (fun _ => .pure _) fun _ => ?_
  refine .bind (.read _) fun held => .bind (conducts_compute _) fun unit => ?_
  exact conducts_writeDefault _ unit

/-- A hook is dropped as if it were asked for, unless it is not there. -/
theorem Moved.dropHooks {c : Chain} (h : k.Moved c) (issuers : List Address) :
    k.Moved (issuers.foldl (fun c issuer => c.dropHook issuer k.basket k.holder) c) := by
  induction issuers generalizing c with
  | nil => exact h
  | cons issuer rest ih =>
    refine ih ?_
    by_cases hmem : k.holder ∈ c.hooksOf issuer k.basket
    · refine h.tail (.unregisterHook issuer) ?_
      simp [ChainRequest.through, BasketRequest.perform, Chain.unregisterHook, Action.through,
        Action.run_bind, Outcome.through?, hmem]
    · simpa [Chain.dropHook, hmem] using h

/-- The last of letting go: the hooks and the record are dropped, and something is said. -/
theorem closes_forget (hrecords : SoundRecords k.known records) (r : Record)
    (payload : EventPayload) (value : Amount) : k.Closes records (do
      .modify fun s =>
        { s with
          chain := r.issuers.foldl (fun c issuer => c.dropHook issuer k.basket k.holder) s.chain
          records := s.records.erase k.basket }
      emit payload
      pure value) := by
  intro s hs
  rw [Action.ends_bind, Action.ends_modify]
  refine ⟨records.erase k.basket, hrecords.erase, hs.chain.dropHooks r.issuers, ?_⟩
  rw [← hs.records]

/-- With the collateral back, the positions are put right and the basket is forgotten. -/
theorem closes_release (hd : d.address = k.holder) (hrecords : SoundRecords k.known records)
    (r : Record) (withdrawn : Amount) :
    k.Closes records (Operation.release d r k.basket withdrawn) := by
  rw [Operation.release, hd]
  refine closes_bind (conducts_writeExternal hd _ _) fun _ => ?_
  have hforget := closes_forget hrecords r (.moduleRemoved k.basket withdrawn) withdrawn
  exact closes_ite (closes_bind (conducts_restoreCollateral hd r) fun _ => hforget) hforget

theorem closes_letGo (hd : d.address = k.holder) (hrecords : SoundRecords k.known records)
    (caller : Address) : k.Closes records (Operation.letGo caller k.basket d) := by
  rw [Operation.letGo_eq]
  refine closes_bind (conducts_require _ rfl) fun _ => closes_bind_of attains_find ?_
  rintro _ rfl
  refine closes_bind_of (attains_orRefuse _ rfl) fun r hr => ?_
  have hknown := (hrecords k.basket r hr).known
  refine closes_bind (conducts_accrue hknown) fun _ => closes_bind (.read _) fun account => ?_
  refine closes_bind (conducts_require _ rfl) fun _ => ?_
  -- with no collateral in the market, there is nothing to withdraw first
  have hrelease := closes_release hd hrecords r account.collateral
  refine closes_ite hrelease ?_
  exact closes_bind (conducts_withdrawCollateral hknown _) fun _ => hrelease

end Errand

end LeveredBasket.Leverage
