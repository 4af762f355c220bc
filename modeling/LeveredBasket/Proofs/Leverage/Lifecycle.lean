/-
The life of a record, and how far a basket has come
(`LeverageModule::lever_state`).

A basket has a record from the day it is enrolled to the day it lets the desk go, with
one market throughout, and once its collateral has been entered that stays so
(`BasketOperation.Transition`). What is entered is levered if the basket's account has
borrow shares, so how an operation ends is a question of shares and not of amounts.
Whoever borrows anything gets a share for it, because shares are rounded up, and who
repays all shares has none left, whatever they have cost.

Every step of an operation but borrowing and repaying keeps those shares
(`Session.Owes`).
-/
import LeveredBasket.Proofs.Leverage.Bookkeeping
import LeveredBasket.Proofs.Leverage.FullDelever
import LeveredBasket.Proofs.Leverage.Isolation

set_option autoImplicit false

namespace LeveredBasket.Leverage

open Lending (Bank Market MarketId MarketParams RepayAmount)

/-- How far a basket has come. -/
def World.leverState (w : World) (basket : Address) : LeverState :=
  w.desk.leverState w.chain basket

/-- **What an operation on a basket that goes through does to the records.** -/
structure BasketOperation.Transition (basket : Address) (w w' : World)
    (operation : BasketOperation) : Prop where
  others : ∀ z, z ≠ basket → w'.desk.records.get? z = w.desk.records.get? z
  created : (w.desk.records.get? basket = none ∧ ∃ r, w'.desk.records.get? basket = some r) ↔
    ∃ caller params, operation = .enrol caller params
  fresh : ∀ r, w.desk.records.get? basket = none → w'.desk.records.get? basket = some r →
    r.entered = false
  entered : (∃ r r', w.desk.records.get? basket = some r ∧
      w'.desk.records.get? basket = some r' ∧ r.entered = false ∧ r'.entered = true) ↔
    ∃ caller, operation = .enter caller
  deleted : ((∃ r, w.desk.records.get? basket = some r) ∧
      w'.desk.records.get? basket = none) ↔
    ∃ caller, operation = .letGo caller
  /-- Nobody is let go who owes anything. -/
  paid : ∀ r, w.desk.records.get? basket = some r → w'.desk.records.get? basket = none →
    (w.chain.pool.account r.market basket).borrowShares = 0
  kept : ∀ r r', w.desk.records.get? basket = some r → w'.desk.records.get? basket = some r' →
    r'.params = r.params ∧ r'.market = r.market ∧ (r.entered = true → r'.entered = true)

/-- The basket's account in the market of the record has so many borrow shares. -/
def Session.Owes (r : Record) (basket : Address) (shares : Amount) (s : Session) : Prop :=
  (s.chain.pool.account r.market basket).borrowShares = shares

/-! ## Records -/

section Records

variable {basket : Address} {w w' : World} {operation : BasketOperation}

/-- Where the records stay as they are, nothing that a transition rules out has happened. -/
theorem BasketOperation.transition_of_eq (h : w'.desk.records = w.desk.records)
    (henrol : ∀ caller params, operation ≠ .enrol caller params)
    (henter : ∀ caller, operation ≠ .enter caller)
    (hletGo : ∀ caller, operation ≠ .letGo caller) : operation.Transition basket w w' := by
  refine ⟨fun z _ => by rw [h], ?_, fun r hnone hr => ?_, ?_, ?_, fun r hr hnone => ?_,
    fun r r' hr hr' => ?_⟩
  · rw [h]
    constructor
    · rintro ⟨hnone, r, hr⟩
      cases hnone.symm.trans hr
    · rintro ⟨caller, params, hoperation⟩
      exact absurd hoperation (henrol caller params)
  · rw [h] at hr
    cases hnone.symm.trans hr
  · rw [h]
    constructor
    · rintro ⟨r, r', hr, hr', hfalse, htrue⟩
      obtain rfl := Option.some.inj (hr.symm.trans hr')
      cases hfalse.symm.trans htrue
    · rintro ⟨caller, hoperation⟩
      exact absurd hoperation (henter caller)
  · rw [h]
    constructor
    · rintro ⟨⟨r, hr⟩, hnone⟩
      cases hnone.symm.trans hr
    · rintro ⟨caller, hoperation⟩
      exact absurd hoperation (hletGo caller)
  · rw [h] at hnone
    cases hnone.symm.trans hr
  · rw [h] at hr'
    obtain rfl := Option.some.inj (hr.symm.trans hr')
    exact ⟨rfl, rfl, id⟩

/-- **Every operation that goes through is such a transition.** -/
theorem BasketOperation.Effect.transition (h : operation.Effect basket w w') :
    operation.Transition basket w w' := by
  have hothers (z : Address) (hz : z ≠ basket) := (h.others hz).record
  cases h with
  | listed _ hrecords => exact transition_of_eq hrecords (by simp) (by simp) (by simp)
  | kept hadjusts _ _ hrecords =>
    refine transition_of_eq hrecords ?_ ?_ ?_
    · rintro caller params rfl
      cases hadjusts
    · rintro caller rfl
      cases hadjusts
    · rintro caller rfl
      cases hadjusts
  | @enrolled _ issuer params _ hnew _ _ _ hrecords =>
    have hself : w'.desk.records.get? basket = some ⟨params, params.id, false, [issuer]⟩ := by
      rw [hrecords, FiniteMap.get?_insert_self]
    refine ⟨hothers, ?_, fun r _ hr => ?_, ?_, ?_, fun r hr => ?_, fun r r' hr => ?_⟩
    · simp [hnew, hself]
    · obtain rfl := Option.some.inj (hself.symm.trans hr)
      rfl
    · simp [hnew]
    · simp [hnew]
    · cases hnew.symm.trans hr
    · cases hnew.symm.trans hr
  | @registered _ issuer r hr _ hrecords =>
    have hself : w'.desk.records.get? basket = some (r.withIssuer issuer) := by
      rw [hrecords, FiniteMap.get?_insert_self]
    refine ⟨hothers, ?_, fun q hnone => ?_, ?_, ?_, fun q _ hnone => ?_, fun q q' hq hq' => ?_⟩
    · simp [hr]
    · cases hnone.symm.trans hr
    · simp [hr, hself, Record.withIssuer]
    · simp [hself]
    · cases hnone.symm.trans hself
    · obtain rfl := Option.some.inj (hr.symm.trans hq)
      obtain rfl := Option.some.inj (hself.symm.trans hq')
      exact ⟨rfl, rfl, id⟩
  | @entered caller r _ _ hr hentered _ _ hrecords =>
    have hself : w'.desk.records.get? basket = some { r with entered := true } := by
      rw [hrecords, FiniteMap.get?_insert_self]
    refine ⟨hothers, ?_, fun q hnone => ?_, ?_, ?_, fun q _ hnone => ?_, fun q q' hq hq' => ?_⟩
    · simp [hr]
    · cases hnone.symm.trans hr
    · simp [hr, hself, hentered]
    · simp [hself]
    · cases hnone.symm.trans hself
    · obtain rfl := Option.some.inj (hr.symm.trans hq)
      obtain rfl := Option.some.inj (hself.symm.trans hq')
      exact ⟨rfl, rfl, fun _ => rfl⟩
  | @released caller r _ _ hr hpaid _ _ hrecords =>
    have hself : w'.desk.records.get? basket = none := by
      rw [hrecords, FiniteMap.get?_erase_self]
    refine ⟨hothers, ?_, fun q hnone => ?_, ?_, ?_, fun q hq _ => ?_, fun q q' _ hq' => ?_⟩
    · simp [hr]
    · cases hnone.symm.trans hr
    · simp [hself]
    · simp [hr, hself]
    · obtain rfl := Option.some.inj (hr.symm.trans hq)
      exact hpaid
    · cases hself.symm.trans hq'

end Records

/-! ## How far a basket has come -/

section State

variable {basket : Address} {w w' : World} {r : Record}

theorem World.leverState_of_record (hr : w.desk.records.get? basket = some r) :
    w.leverState basket =
      if r.entered then
        if 0 < (w.chain.pool.account r.market basket).borrowShares then .levered
        else .collateralized
      else .initialized := by
  rw [World.leverState, Desk.leverState, hr]

/-- What has been entered is levered if it has borrow shares. -/
theorem World.leverState_of_shares (hr : w.desk.records.get? basket = some r)
    (hentered : r.entered = true)
    (hshares : 0 < (w.chain.pool.account r.market basket).borrowShares.toNat) :
    w.leverState basket = .levered := by
  rw [World.leverState_of_record hr, if_pos hentered]
  exact if_pos hshares

/-- And otherwise collateralized. -/
theorem World.leverState_of_none (hr : w.desk.records.get? basket = some r)
    (hentered : r.entered = true)
    (hnone : (w.chain.pool.account r.market basket).borrowShares = 0) :
    w.leverState basket = .collateralized := by
  rw [World.leverState_of_record hr, if_pos hentered, hnone]
  exact if_neg (Nat.lt_irrefl 0)

/-- The same record and the same shares are the same state. -/
theorem World.leverState_congr {r' : Record} (hr : w.desk.records.get? basket = some r)
    (hr' : w'.desk.records.get? basket = some r') (hmarket : r'.market = r.market)
    (hentered : r'.entered = r.entered)
    (hshares : (w'.chain.pool.account r.market basket).borrowShares =
      (w.chain.pool.account r.market basket).borrowShares) :
    w'.leverState basket = w.leverState basket := by
  rw [World.leverState_of_record hr, World.leverState_of_record hr', hmarket, hentered, hshares]

end State

/-! ## Shares -/

/-- The shares that are told with the balances are those of the account. -/
theorem Record.borrowShares_of_balances {r : Record} {c : Chain} {basket : Address} {bal : Balances}
    (hmarket : r.market = r.params.id) (h : r.balances c basket = .ok bal) :
    bal.borrowShares = (c.pool.account r.market basket).borrowShares := by
  obtain ⟨m, hm⟩ := Record.exists_market hmarket h
  rw [(Record.balances_market hmarket hm h).2, Record.account_market hmarket hm]

namespace Operation

section Owes

variable {α : Type} {r : Record} {basket : Address} {shares : Amount} {s : Session}

/-- The step keeps the borrow shares. -/
abbrev KeepsOwing (r : Record) (basket : Address) (shares : Amount) (x : Operation α) : Prop :=
  x.Leads (Session.Owes r basket shares) fun _ _ => True

/-- What keeps the books keeps the shares. -/
theorem keepsOwing_of_books {x : Operation α}
    (hx : ∀ books, x.Keeps (fun s => s.books = books) fun _ => True) :
    KeepsOwing r basket shares x := by
  intro s hs
  refine (hx s.books s rfl).yields fun _ s' hbooks => ?_
  have hpool : s'.chain.pool = s.chain.pool := congrArg Prod.fst hbooks
  unfold Session.Owes
  rw [hpool]
  exact hs

theorem keepsOwing_compute (x : Except MathError α) : KeepsOwing r basket shares (compute x) :=
  keepsOwing_of_books fun _ => keepsBooks_compute x

theorem keepsOwing_trade (p : TradePlan) (route : Bytes) :
    KeepsOwing r basket shares (trade p route) :=
  keepsOwing_of_books fun _ => keepsBooks_trade p route

theorem keepsOwing_chargeFee (d : Desk) (address asset : Address) (amount : Amount) :
    KeepsOwing r basket shares (chargeFee d address asset amount) :=
  keepsOwing_of_books fun _ => keepsBooks_chargeFee d address asset amount

theorem keepsOwing_emit (payload : EventPayload) : KeepsOwing r basket shares (emit payload) :=
  fun _ hs => hs

/-- A call on the pool that books a market in which the account owes what it owed. -/
theorem keepsOwing_booked {params : MarketParams} {m m' : Market} {t : TokenBook}
    (hs : s.Owes r basket shares) (hm : s.chain.pool.markets.get? params.id = some m)
    (hsame : (m'.account basket).borrowShares = (m.account basket).borrowShares) :
    (s.withBank { s.chain.toBank.booked params m' with tokens := t }).Owes r basket shares := by
  have haccount : (s.chain.toBank.booked params m').pool.account r.market basket =
      if r.market = params.id then m'.account basket else s.chain.pool.account r.market basket :=
    s.chain.toBank.account_booked params m' r.market basket
  unfold Session.Owes at hs ⊢
  change ((s.chain.toBank.booked params m').pool.account r.market basket).borrowShares = shares
  rw [haccount]
  split
  case isTrue hid => rw [hsame, ← hs, Lending.Pool.account, hid, hm]
  case isFalse => exact hs

theorem keepsOwing_accrue (params : MarketParams) :
    KeepsOwing r basket shares (lending (Bank.accrue params)) := by
  intro s hs
  refine (lending_yields _ s).yields ?_
  rintro _ _ ⟨b, haccrue, rfl⟩
  exact (congrArg _ (Bank.account_of_accrue haccrue r.market basket)).trans hs

theorem keepsOwing_supplyCollateral (params : MarketParams) (amount : Amount) :
    KeepsOwing r basket shares (lending (Bank.supplyCollateral params basket amount)) := by
  intro s hs
  rw [ends_lending]
  refine (Bank.supplyCollateral_ends params basket amount _).yields ?_
  rintro _ _ ⟨m, m', t, hm, -, -, hsame, -, -, rfl⟩
  exact keepsOwing_booked hs hm hsame

theorem keepsOwing_withdrawCollateral (params : MarketParams) (amount : Amount)
    (receiver : Address) :
    KeepsOwing r basket shares
      (lending (Bank.withdrawCollateral params basket amount receiver)) := by
  intro s hs
  rw [ends_lending]
  refine (Bank.withdrawCollateral_ends params basket amount receiver _).yields ?_
  rintro _ _ ⟨m₀, m, m', t, hm₀, haccrued, -, -, hsame, -, -, -, rfl⟩
  refine keepsOwing_booked hs hm₀ (hsame.trans ?_)
  rw [haccrued.account]

theorem keepsOwing_writePositions (d : Desk) (q : Record) (supply : Amount) :
    KeepsOwing r basket shares (writePositions d basket q supply) := by
  intro s hs
  refine (writePositions_yields d basket q supply s).yields ?_
  rintro report s' ⟨hbooks, -, -⟩
  have hpool : s'.chain.pool = s.chain.pool := congrArg Prod.fst hbooks
  unfold Session.Owes
  rw [hpool]
  exact hs

theorem keepsOwing_syncPositions (d : Desk) (q : Record) :
    KeepsOwing r basket shares (syncPositions d basket q) := by
  have hsupply : KeepsOwing r basket shares (supplyOf basket) := by
    intro s hs
    refine (supplyOf_yields basket s).yields ?_
    rintro _ _ rfl
    exact hs
  refine .bind hsupply fun supply => .ite (fun _ => .pure _) fun _ => ?_
  refine .bind (keepsOwing_accrue _) fun _ => ?_
  refine .bind (keepsOwing_writePositions d q supply) fun report => ?_
  exact .bind (keepsOwing_emit _) fun _ => .pure _

/-- A sale of collateral leaves the debt. -/
theorem keepsOwing_sellCollateral (d : Desk) (q : Record) (p : TradePlan) (route : Bytes)
    (hp : p.basket = basket) : KeepsOwing r basket shares (sellCollateral d q p route) := by
  rw [sellCollateral, hp]
  refine .bind (keepsOwing_withdrawCollateral _ _ _) fun _ => ?_
  refine .bind (keepsOwing_trade p route) fun received => ?_
  refine .bind (keepsOwing_chargeFee d _ _ received) fun fee => ?_
  exact .bind (keepsOwing_compute _) fun net => .pure _

end Owes

/-! ## Up and down -/

section Ways

variable {d : Desk} {r : Record} {basket : Address} {s : Session}

/-- The record that is found has been entered. -/
theorem enteredRecord_found (d : Desk) (caller basket : Address) (s : Session) :
    ((enteredRecord d caller basket).run s).Yields fun r s' =>
      s' = s ∧ s.records.get? basket = some r ∧ r.entered = true := by
  rw [enteredRecord]
  refine Action.yields_bind (requireManager_yields caller basket s) ?_
  rintro _ _ rfl
  refine Action.yields_bind (recordOf_yields d basket _) ?_
  rintro r _ ⟨rfl, hr⟩
  simp only [Outcome.Yields, Action.ends_bind, Action.ends_require, Action.run_pure,
    Outcome.ends_done, implies_true, and_true]
  exact fun hentered => ⟨trivial, hr, hentered⟩

/-- Nobody plans to send nothing. -/
theorem planPerToken_nonzero (d : Desk) (address send receive : Address) (units minimum : Amount)
    (adapterName : String) (s : Session) :
    ((planPerToken d address send receive units minimum adapterName).run s).Yields fun p s' =>
      s' = s ∧ p.sendQuantity ≠ 0 := by
  simp only [Outcome.Yields, planPerToken, plan, walletOf, Action.ends_bind, Action.ends_require,
    Action.ends_read, Action.ends_ofExcept, ends_supplyOf, ends_compute, Action.run_pure,
    Outcome.ends_done, implies_true, and_true]
  intro _ _ quantity _ least _ hsome _ _ _ _
  exact ⟨trivial, hsome⟩

/-- **Who borrows anything gets a share for it.** -/
theorem borrow_owes (hmarket : r.market = r.params.id) {assets : Amount} (hassets : assets ≠ 0)
    (s : Session) : ((lending (Bank.borrow r.params basket assets basket)).run s).Yields
      fun _ s' => ∃ shares, 0 < shares.toNat ∧ s'.Owes r basket shares := by
  rw [Outcome.Yields, ends_lending]
  refine (Bank.borrow_ends r.params basket assets basket _).yields ?_
  rintro _ _ ⟨m₀, m, m', t, -, -, hborrowed, -, -, -, -, rfl⟩
  obtain ⟨shares, hshares, -, haccount⟩ := hborrowed.ofShares
  refine ⟨(m'.account basket).borrowShares, ?_, ?_⟩
  · have hbought : 0 < shares.toNat := by
      rw [hshares]
      exact Lending.ceilDiv_pos (Nat.mul_pos (Amount.toNat_pos_iff.2 hassets) (Nat.succ_pos _))
        (Nat.succ_pos _)
    omega
  · exact congrArg Lending.Account.borrowShares
      (Record.account_market hmarket Bank.get?_booked_self basket)

/-- **Levering** ends with borrow shares. -/
theorem lever_owes (hmarket : ∀ r, s.records.get? basket = some r → r.market = r.params.id)
    (caller : Address) (units least : Amount) (adapterName : String) (route : Bytes) (d : Desk) :
    ((lever caller basket units least adapterName route d).run s).Yields fun _ s' => ∃ r shares,
      s.records.get? basket = some r ∧ r.entered = true ∧ 0 < shares.toNat ∧
        s'.Owes r basket shares := by
  rw [lever]
  refine Action.yields_bind (enteredRecord_found d caller basket s) ?_
  rintro r s ⟨rfl, hr, hentered⟩
  refine Action.yields_bind (lending_yields _ s) ?_
  rintro _ _ ⟨b, -, rfl⟩
  refine Action.yields_bind (planPerToken_nonzero d basket _ _ units least adapterName _) ?_
  rintro p _ ⟨rfl, hsome⟩
  refine Action.yields_bind (borrow_owes (hmarket r hr) hsome _) ?_
  rintro borrowed s₁ ⟨shares, hshares, howes⟩
  have hend (received fee net : Amount) : KeepsOwing r basket shares (do
      let report ← writePositions d basket r p.supply
      emit (.leverageIncreased ⟨basket, r.params.loanAsset, r.params.collateralAsset,
        p.adapterName, borrowed.assets, received, fee⟩)
      pure (⟨borrowed.assets, received, fee, net, report.collateralUnit, report.borrowUnit⟩ :
        LeverReport)) :=
    .bind (keepsOwing_writePositions d r p.supply) fun _ => .bind (keepsOwing_emit _) fun _ =>
      .pure _
  refine Action.yields_bind (keepsOwing_trade p route s₁ howes) ?_
  intro received s₂ howes
  refine Action.yields_bind (keepsOwing_chargeFee d basket _ received s₂ howes) ?_
  intro fee s₃ howes
  refine Action.yields_bind (keepsOwing_compute _ s₃ howes) ?_
  intro net s₄ howes
  have hrest : KeepsOwing r basket shares (do
      if net = 0 then pure ()
      else lending (Bank.supplyCollateral r.params basket net)
      let report ← writePositions d basket r p.supply
      emit (.leverageIncreased ⟨basket, r.params.loanAsset, r.params.collateralAsset,
        p.adapterName, borrowed.assets, received, fee⟩)
      pure (⟨borrowed.assets, received, fee, net, report.collateralUnit, report.borrowUnit⟩ :
        LeverReport)) :=
    .ite (fun _ => hend received fee net) fun _ =>
      .bind (keepsOwing_supplyCollateral _ _) fun _ => hend received fee net
  exact (hrest s₄ howes).yields fun _ s' hs' => ⟨r, shares, hr, hentered, hshares, hs'⟩

/-- **The report of a delevering says whether any shares are left.** -/
theorem finishDelever_owes (d : Desk) (r : Record) (p : TradePlan) (received fee repaid : Amount)
    (s : Session) : ((finishDelever d r p received fee repaid).run s).Yields fun report s' =>
      s'.chain.pool = s.chain.pool ∧
        (report.fullyDelevered = true ↔ s'.Owes r p.basket 0) := by
  refine (finishDelever_yields d r p received fee repaid s).yields ?_
  rintro report s' ⟨hfully, -, hpool⟩
  unfold Session.Owes
  rw [hpool]
  exact ⟨rfl, hfully⟩

/-- **Delevering** ends as it reports. -/
theorem delever_owes (caller basket : Address) (units least : Amount) (adapterName : String)
    (route : Bytes) (d : Desk) (s : Session) :
    ((delever caller basket units least adapterName route d).run s).Yields fun report s' => ∃ r,
      s.records.get? basket = some r ∧ r.entered = true ∧
        (report.fullyDelevered = true ↔ s'.Owes r basket 0) := by
  rw [delever]
  refine Action.yields_bind (enteredRecord_found d caller basket s) ?_
  rintro r s ⟨rfl, hr, hentered⟩
  refine Action.yields_bind (lending_yields _ s) ?_
  rintro _ _ ⟨b, -, rfl⟩
  refine Action.yields_bind (planPerToken_yields d basket _ _ units least adapterName _) ?_
  rintro p _ ⟨rfl, rfl⟩
  -- how the shares come about that are left does not matter for the report
  refine Action.yields_bind (Outcome.yields_self _) ?_
  rintro ⟨received, fee, net⟩ s₁ -
  refine Action.yields_bind (Outcome.yields_self _) ?_
  rintro repaid s₂ -
  refine (finishDelever_owes d r p received fee repaid s₂).yields ?_
  rintro report s' ⟨-, hfully⟩
  exact ⟨r, hr, hentered, hfully⟩

/-- A repayment of all shares leaves none. -/
theorem repay_owes (hmarket : r.market = r.params.id) {shares : Amount}
    (hs : s.Owes r basket shares) :
    ((lending (Bank.repay r.params basket (.shares shares))).run s).Yields
      fun _ s' => s'.Owes r basket 0 := by
  rw [Outcome.Yields, ends_lending]
  refine (Bank.repay_ends r.params basket _ _).yields ?_
  rintro moved _ ⟨m₀, m, m', t, hm₀, haccrued, hrepaid, -, -, -, rfl⟩
  have hbefore : (m.account basket).borrowShares = shares := by
    rw [haccrued.account, ← Record.account_market hmarket hm₀]
    exact hs
  have hall := (Bank.movementOf_shares hrepaid.price).1
  have haccount := hrepaid.account
  rw [hbefore, hall] at haccount
  have hnone : (m'.account basket).borrowShares = 0 := by
    apply Word.ext
    rw [Word.toNat_zero]
    omega
  exact (congrArg Lending.Account.borrowShares
    (Record.account_market hmarket Bank.get?_booked_self basket)).trans hnone

/-- **Delevering to zero** starts with borrow shares and ends without. -/
theorem deleverToZero_owes
    (hmarket : ∀ r, s.records.get? basket = some r → r.market = r.params.id) (caller : Address)
    (units : Amount) (adapterName : String) (route : Bytes) (d : Desk) :
    ((deleverToZero caller basket units adapterName route d).run s).Yields fun report s' =>
      ∃ r shares, s.records.get? basket = some r ∧ r.entered = true ∧ 0 < shares.toNat ∧
        s.Owes r basket shares ∧ s'.Owes r basket 0 ∧ report.fullyDelevered = true := by
  rw [deleverToZero]
  refine Action.yields_bind (enteredRecord_found d caller basket s) ?_
  rintro r s ⟨rfl, hr, hentered⟩
  have hmarket := hmarket r hr
  have howes : s.Owes r basket (s.chain.pool.account r.market basket).borrowShares := rfl
  refine Action.yields_bind (keepsOwing_accrue r.params s howes) ?_
  intro _ s₁ howes₁
  rw [Outcome.Yields, Action.ends_bind, ends_balancesOf]
  refine ⟨fun bal hbal => ?_, fun _ _ => trivial⟩
  have hshares := (Record.borrowShares_of_balances hmarket hbal).trans howes₁
  rw [Action.ends_bind, Action.ends_require]
  refine ⟨fun hsome => ?_, fun _ => trivial⟩
  refine Action.yields_bind (supplyOf_yields basket s₁) ?_
  rintro supply _ rfl
  refine Action.yields_bind (compute_yields _ _) ?_
  rintro quantity s₁ ⟨-, rfl⟩
  refine Action.yields_bind (plan_yields d basket _ _ quantity bal.borrow adapterName s₁) ?_
  rintro p s₁ ⟨rfl, hp, -⟩
  refine Action.yields_bind (keepsOwing_sellCollateral d r p route hp s₁ howes₁) ?_
  rintro ⟨received, fee, net⟩ s₂ howes₂
  rw [Outcome.Yields, Action.ends_bind, Action.ends_require]
  refine ⟨fun _ => ?_, fun _ => trivial⟩
  rw [← hshares] at howes howes₂
  refine Action.yields_bind (repay_owes hmarket howes₂) ?_
  intro moved s₃ howes₃
  refine (finishDelever_owes d r p received fee moved.assets s₃).yields ?_
  rintro report s' ⟨hpool, hfully⟩
  have howes' : s'.Owes r basket 0 := by
    unfold Session.Owes
    rw [hpool]
    exact howes₃
  rw [hp] at hfully
  exact ⟨r, _, hr, hentered, Amount.toNat_pos_iff.2 hsome, howes, howes', hfully.2 howes'⟩

end Ways

end Operation

/-! ## Operations -/

section States

variable {basket : Address} {w w' : World}

/-- An operation that leaves the records alone, in the worlds before and after. -/
theorem World.operate_adjusts (operation : BasketOperation) {α : Type} {op : Desk → Operation α}
    {Q : α → Session → Prop} {a : α} (hadjusts : operation.adjusts = true)
    (hperform : operation.perform basket = do let _ ← World.operate op)
    (h : ((op w.desk).run ⟨w.chain, w.desk.records, []⟩).Yields Q)
    (hrun : (World.operate op).run w = .done a w') :
    w'.desk.records = w.desk.records ∧ ∃ s : Session, Q a s ∧ s.chain = w'.chain := by
  have hdone : (operation.perform basket).run w = .done () w' := by
    rw [hperform]
    exact Action.run_forget_eq_done.2 ⟨a, hrun⟩
  have hrecords : w'.desk.records = w.desk.records := by
    cases BasketOperation.effect hdone with
    | listed _ hrecords => exact hrecords
    | kept _ _ _ hrecords => exact hrecords
    | enrolled | registered | entered | released => cases hadjusts
  obtain ⟨s, log, hs, rfl⟩ := World.operate_yields hrun
  exact ⟨hrecords, s, h.done hs, rfl⟩

/-- **Levering** is for a basket that has been entered, and levers it. -/
theorem World.lever_leverState (hw : w.Orderly Set.univ) {caller : Address}
    {units least : Amount} {adapterName : String} {route : Bytes} {report : LeverReport}
    (h : (World.lever caller basket units least adapterName route).run w = .done report w') :
    (w.leverState basket = .collateralized ∨ w.leverState basket = .levered) ∧
      w'.leverState basket = .levered := by
  have howes := Operation.lever_owes (s := ⟨w.chain, w.desk.records, []⟩)
    (fun r hr => (hw.records basket r hr).market) caller units least adapterName route w.desk
  obtain ⟨hrecords, s, ⟨r, shares, hr, hentered, hshares, hs⟩, hchain⟩ :=
    operate_adjusts (.lever caller units least adapterName route) rfl rfl howes h
  constructor
  · rw [leverState_of_record hr, if_pos hentered]
    split
    · exact .inr rfl
    · exact .inl rfl
  · refine leverState_of_shares (hrecords ▸ hr) hentered ?_
    rw [← hchain, hs]
    exact hshares

/-- **Delevering to zero** is for a levered basket, and leaves it collateralized. -/
theorem World.deleverToZero_leverState (hw : w.Orderly Set.univ) {caller : Address}
    {units : Amount} {adapterName : String} {route : Bytes} {report : DeleverReport}
    (h : (World.deleverToZero caller basket units adapterName route).run w = .done report w') :
    w.leverState basket = .levered ∧ w'.leverState basket = .collateralized := by
  have howes := Operation.deleverToZero_owes (s := ⟨w.chain, w.desk.records, []⟩)
    (fun r hr => (hw.records basket r hr).market) caller units adapterName route w.desk
  obtain ⟨hrecords, s, ⟨r, shares, hr, hentered, hshares, hbefore, hs, -⟩, hchain⟩ :=
    operate_adjusts (.deleverToZero caller units adapterName route) rfl rfl howes h
  constructor
  · refine leverState_of_shares hr hentered ?_
    have hsame : (w.chain.pool.account r.market basket).borrowShares = shares := hbefore
    rw [hsame]
    exact hshares
  · refine leverState_of_none (hrecords ▸ hr) hentered ?_
    rw [← hchain]
    exact hs

/-- **Delevering** leaves the basket as it reports. -/
theorem World.delever_leverState {caller : Address} {units least : Amount} {adapterName : String}
    {route : Bytes} {report : DeleverReport}
    (h : (World.delever caller basket units least adapterName route).run w = .done report w') :
    w'.leverState basket = if report.fullyDelevered then .collateralized else .levered := by
  have howes := Operation.delever_owes caller basket units least adapterName route w.desk
    ⟨w.chain, w.desk.records, []⟩
  obtain ⟨hrecords, s, ⟨r, hr, hentered, hfully⟩, hchain⟩ :=
    operate_adjusts (.delever caller units least adapterName route) rfl rfl howes h
  have hr' : w'.desk.records.get? basket = some r := hrecords ▸ hr
  unfold Session.Owes at hfully
  rw [hchain] at hfully
  split
  case isTrue htrue => exact leverState_of_none hr' hentered (hfully.1 htrue)
  case isFalse hfalse =>
    refine leverState_of_shares hr' hentered (Amount.toNat_pos_iff.2 fun hnone => ?_)
    exact hfalse (hfully.2 hnone)

/-- To bring units up to date leaves the shares. -/
theorem Operation.sync_owes (d : Desk) (basket : Address) (s : Session) :
    ((do
      let r ← recordOf d basket
      syncPositions d basket r : Operation (Option SyncReport)).run s).Yields fun _ s' => ∃ r,
        s.records.get? basket = some r ∧
          s'.Owes r basket (s.chain.pool.account r.market basket).borrowShares := by
  refine Action.yields_bind (recordOf_yields d basket s) ?_
  rintro r s ⟨rfl, hr⟩
  have howes : s.Owes r basket (s.chain.pool.account r.market basket).borrowShares := rfl
  exact (keepsOwing_syncPositions d r s howes).yields fun _ _ hs' => ⟨r, hr, hs'⟩

theorem World.sync_leverState {report : Option SyncReport}
    (h : (World.sync basket).run w = .done report w') :
    w'.leverState basket = w.leverState basket := by
  have howes := Operation.sync_owes w.desk basket ⟨w.chain, w.desk.records, []⟩
  obtain ⟨hrecords, s, ⟨r, hr, hs⟩, hchain⟩ :=
    operate_adjusts .sync rfl rfl howes h
  exact leverState_congr hr (hrecords ▸ hr) rfl rfl (hchain ▸ hs)

theorem World.moduleHook_leverState {caller : Address} {report : Option SyncReport}
    (h : (World.moduleHook caller basket).run w = .done report w') :
    w'.leverState basket = w.leverState basket := by
  have howes : ((Operation.moduleHook caller basket w.desk).run
      ⟨w.chain, w.desk.records, []⟩).Yields fun _ s' => ∃ r,
        w.desk.records.get? basket = some r ∧
          s'.Owes r basket (w.chain.pool.account r.market basket).borrowShares := by
    refine Action.yields_bind (Operation.requireIssuer_yields caller basket _) ?_
    rintro _ _ rfl
    exact Operation.sync_owes w.desk basket _
  obtain ⟨hrecords, s, ⟨r, hr, hs⟩, hchain⟩ :=
    operate_adjusts (.moduleHook caller) rfl rfl howes h
  exact leverState_congr hr (hrecords ▸ hr) rfl rfl (hchain ▸ hs)

theorem World.registerIssuer_leverState {caller issuer : Address}
    (h : (World.registerIssuer caller basket issuer).run w = .done () w') :
    w'.leverState basket = w.leverState basket := by
  have hdone : ((BasketOperation.registerIssuer caller issuer).perform basket).run w =
      .done () w' := h
  cases BasketOperation.effect hdone with
  | kept hadjusts => cases hadjusts
  | @registered _ _ r hr hchain hrecords =>
    have hr' : w'.desk.records.get? basket = some (r.withIssuer issuer) := by
      rw [hrecords, FiniteMap.get?_insert_self]
    refine leverState_congr hr hr' rfl rfl ?_
    rw [hchain]
    rfl

/-- **The life of a basket with the desk.** In a world that can come about, let an operation on the
basket go through. Only to enrol creates its record, one that has not been entered; only entering
enters it; only letting go deletes it, and only if it owes nothing. Nothing else becomes of its
market, nor of the record of another. Levering is for a basket that is collateralized or levered,
and levers it; delevering to zero is for a levered one, and leaves it collateralized; delevering
leaves it collateralized where it reports that the debt is gone, and levered otherwise. Bringing
units up to date, the hooks that do so, and registering with another orchestrator leave it where it
is. -/
theorem World.Reachable.lifecycle (hw : w.Reachable) (basket : Address) :
    (∀ (operation : BasketOperation) w', (operation.perform basket).run w = .done () w' →
      operation.Transition basket w w') ∧
    (∀ caller units least adapterName route report w',
      (World.lever caller basket units least adapterName route).run w = .done report w' →
      (w.leverState basket = .collateralized ∨ w.leverState basket = .levered) ∧
        w'.leverState basket = .levered) ∧
    (∀ caller units adapterName route report w',
      (World.deleverToZero caller basket units adapterName route).run w = .done report w' →
      w.leverState basket = .levered ∧ w'.leverState basket = .collateralized) ∧
    (∀ caller units least adapterName route report w',
      (World.delever caller basket units least adapterName route).run w = .done report w' →
      w'.leverState basket = if report.fullyDelevered then .collateralized else .levered) ∧
    (∀ report w', (World.sync basket).run w = .done report w' →
      w'.leverState basket = w.leverState basket) ∧
    (∀ caller report w', (World.moduleHook caller basket).run w = .done report w' →
      w'.leverState basket = w.leverState basket) ∧
    ∀ caller issuer w', (World.registerIssuer caller basket issuer).run w = .done () w' →
      w'.leverState basket = w.leverState basket := by
  have horderly := hw.orderly
  refine ⟨fun operation w' h => (BasketOperation.effect h).transition, ?_, ?_, ?_, ?_, ?_, ?_⟩
  · exact fun _ _ _ _ _ _ _ h => World.lever_leverState horderly h
  · exact fun _ _ _ _ _ _ h => World.deleverToZero_leverState horderly h
  · exact fun _ _ _ _ _ _ _ h => World.delever_leverState h
  · exact fun _ _ h => World.sync_leverState h
  · exact fun _ _ _ h => World.moduleHook_leverState h
  · exact fun _ _ _ h => World.registerIssuer_leverState h

end States

open Deployment in
/-- So it is where the basket of the reference deployment is levered after it has entered. -/
theorem World.lifecycle_of_entering : ∃ w report w',
    World.runs entering (start .usual) = some w ∧
    (World.lever manager Deployment.basket thousandUsdc 0 adapterName []).run w =
      .done report w' ∧
    (w.leverState Deployment.basket = .collateralized ∨
      w.leverState Deployment.basket = .levered) ∧
    w'.leverState Deployment.basket = .levered ∧
    (BasketOperation.lever manager thousandUsdc 0 adapterName []).Transition Deployment.basket
      w w' := by
  have hcalls : ((World.runs entering (start .usual)).map fun w =>
      ((World.lever manager Deployment.basket thousandUsdc 0 adapterName []).run w).isDone) =
        some true := by decide +kernel
  obtain ⟨w, hw, hcalls⟩ := Option.map_eq_some_iff.1 hcalls
  obtain ⟨report, w', hlever⟩ := Outcome.exists_of_isDone hcalls
  have hreachable : w.Reachable := ⟨pool, router, feeRecipient, holder, owner, .usual, _, hw⟩
  obtain ⟨htransition, hlevers, -⟩ :=
    World.Reachable.lifecycle hreachable Deployment.basket
  obtain ⟨hbefore, hafter⟩ := hlevers manager thousandUsdc 0 adapterName [] report w' hlever
  exact ⟨w, report, w', hw, hlever, hbefore, hafter,
    htransition _ w' (Action.run_forget_eq_done.2 ⟨report, hlever⟩)⟩

end LeveredBasket.Leverage
