/-
The events replay the collateral.

Every operation says how much collateral it moves into the market of a basket or
out of it, and says nothing that it does not do: what is logged for a levering is
what the fee has left, and for a delevering what was sold. So the collateral of a
basket can be told from the events alone, as long as nobody else touches its
position (`Request.KeepsOff`).

In the middle of an operation the events lag behind the pool. By how much is the
`balance` of a session (`Session.Replays`): to move collateral changes it, to say
so changes it back, and every other step keeps it.
-/
import LeveredBasket.Proofs.Lending.Pledges
import LeveredBasket.Proofs.Leverage.Grounding
import LeveredBasket.Proofs.Leverage.Journal

set_option autoImplicit false

namespace LeveredBasket

open Lending (Bank MarketId MarketParams)

/-- **How much collateral an event puts into the market** of a basket. What is taken out counts
below zero. -/
def EventPayload.growth (basket : Address) : EventPayload → Int
  | moduleRemoved address withdrawn =>
    if address = basket then -(withdrawn.toNat : Int) else 0
  | collateralEntered address _ supplied _ =>
    if address = basket then (supplied.toNat : Int) else 0
  | leverageIncreased change =>
    if change.basket = basket then (change.totalReceive.toNat : Int) - change.protocolFee.toNat
    else 0
  | leverageDecreased change =>
    if change.basket = basket then -(change.totalSend.toNat : Int) else 0
  | moduleInitialized .. | allowListUpdated .. | anyBasketAllowedUpdated _
  | issuanceModuleRegistered .. | fullyDelevered .. | positionsSynced .. | issueHookBorrowed _
  | redeemHookRepaid _ => 0

/-- How much events put into the market, all together. -/
def growthOf (basket : Address) : List EventPayload → Int
  | [] => 0
  | p :: rest => p.growth basket + growthOf basket rest

namespace Leverage

/-- The market in which a basket's records have it. -/
def marketOf (records : FiniteMap Address Record) (basket : Address) : Option MarketId :=
  (records.get? basket).map (·.market)

/-- **What the events of a session leave out.** The records are these. All collateral of the basket
is in the market of its record, and is `balance` more than what the events so far come to. -/
structure Session.Replays (basket : Address) (records : FiniteMap Address Record) (balance : Int)
    (s : Session) : Prop where
  kept : s.records = records
  pledged : s.chain.pool.PledgedIn (marketOf records basket) basket
    (balance + growthOf basket s.events)

/-- So it is in a world, before anything is said. -/
def World.Replays (basket : Address) (balance : Int) (w : World) : Prop :=
  w.chain.pool.PledgedIn (marketOf w.desk.records basket) basket balance

/-- **The request keeps off the basket's position in the market**: it is no call to the pool on the
basket's behalf, and does not open the market anew. To ask the desk is always to keep off. -/
def Request.KeepsOff (basket : Address) (w : World) : Request → Prop
  | chain q => q.account? ≠ some basket ∧
    ∀ id ∈ marketOf w.desk.records basket, q.opens? ≠ some id
  | desk _ => True

instance (basket : Address) (w : World) : (r : Request) → Decidable (r.KeepsOff basket w)
  | .chain _ => inferInstanceAs (Decidable (_ ∧ _))
  | .desk _ => isTrue trivial

end Leverage

/-! ## What events come to -/

theorem growthOf_append (basket : Address) (xs ys : List EventPayload) :
    growthOf basket (xs ++ ys) = growthOf basket xs + growthOf basket ys := by
  induction xs with
  | nil => exact (Int.zero_add _).symm
  | cons p rest ih => rw [List.cons_append, growthOf, growthOf, ih, Int.add_assoc]

theorem growthOf_singleton (basket : Address) (p : EventPayload) :
    growthOf basket [p] = p.growth basket := Int.add_zero _

namespace Leverage

/-! ## Records -/

section Records

variable {records : FiniteMap Address Record} {basket z : Address} {r r' : Record}

theorem marketOf_eq (hr : records.get? basket = some r) :
    marketOf records basket = some r.market := by
  rw [marketOf, hr, Option.map_some]

/-- A record that is rewritten with the same market. -/
theorem marketOf_insert (hr : records.get? basket = some r) (hmarket : r'.market = r.market) :
    marketOf (records.insert basket r') z = marketOf records z := by
  rw [marketOf, marketOf, FiniteMap.get?_insert]
  split
  case isTrue hz => rw [hz, hr, Option.map_some, Option.map_some, hmarket]
  case isFalse => rfl

theorem marketOf_insert_of_ne (hz : z ≠ basket) :
    marketOf (records.insert basket r') z = marketOf records z := by
  rw [marketOf, marketOf, FiniteMap.get?_insert_of_ne _ hz]

theorem marketOf_erase_of_ne (hz : z ≠ basket) :
    marketOf (records.erase basket) z = marketOf records z := by
  rw [marketOf, marketOf, FiniteMap.get?_erase_of_ne _ hz]

end Records

namespace Session.Replays

variable {z basket : Address} {records : FiniteMap Address Record} {balance change : Int}
variable {s s' : Session} {payload : EventPayload}

/-- A session with the same books is no further behind. -/
theorem of_books (hs : s.Replays z records balance) (h : s'.books = s.books) :
    s'.Replays z records balance := by
  obtain ⟨hpool, hrecords, hevents⟩ := Session.books_eq h
  refine ⟨hrecords.trans hs.kept, ?_⟩
  rw [hpool, hevents]
  exact hs.pledged

/-- What has been moved is said. -/
theorem say (hs : s.Replays z records (balance + change)) (h : payload.growth z = change) :
    ({ s with events := s.events ++ [payload] } : Session).Replays z records balance := by
  refine ⟨hs.kept, ?_⟩
  have hgrowth : balance + growthOf z (s.events ++ [payload]) =
      balance + change + growthOf z s.events := by
    rw [growthOf_append, growthOf_singleton, h]
    omega
  rw [hgrowth]
  exact hs.pledged

/-- The books are given over to other records, in which the basket has the same market. -/
theorem handOver {records' : FiniteMap Address Record} (hs : s.Replays z records balance)
    (hbooks : s'.books = (s.chain.pool, records', s.events ++ [payload]))
    (hmarket : marketOf records' z = marketOf records z) (h : payload.growth z = 0) :
    s'.Replays z records' balance := by
  obtain ⟨hpool, hrecords, hevents⟩ := Session.books_eq hbooks
  refine ⟨hrecords, ?_⟩
  rw [hpool, hevents, hmarket, growthOf_append, growthOf_singleton, h, Int.add_zero]
  exact hs.pledged

end Session.Replays

namespace Operation

variable {α : Type} {z basket : Address} {records : FiniteMap Address Record} {balance : Int}
variable {d : Desk} {r : Record} {s : Session} {payload : EventPayload} {change : Int}

/-! ## Steps that keep the balance -/

/-- **The step keeps the balance**: it moves no collateral, and says of none that it was moved. -/
abbrev KeepsReplay (z : Address) (records : FiniteMap Address Record) (balance : Int)
    (x : Operation α) : Prop :=
  x.Leads (fun s => s.Replays z records balance) fun _ _ => True

theorem keepsReplay_of_books {x : Operation α}
    (hx : ∀ s, (x.run s).Yields fun _ s' => s'.books = s.books) :
    KeepsReplay z records balance x := by
  intro s hs
  exact (hx s).yields fun _ s' h => hs.of_books h

/-- To look something up is to change nothing. -/
theorem keepsReplay_of_eq {x : Operation α} (hx : ∀ s, (x.run s).Yields fun _ s' => s' = s) :
    KeepsReplay z records balance x :=
  keepsReplay_of_books fun s => (hx s).yields fun _ _ h => congrArg Session.books h

theorem keepsReplay_compute (x : Except MathError α) : KeepsReplay z records balance (compute x) :=
  keepsReplay_of_eq fun s => (compute_yields x s).yields fun _ _ h => h.2

theorem keepsReplay_requireIssuer (caller basket : Address) :
    KeepsReplay z records balance (requireIssuer caller basket) :=
  keepsReplay_of_eq (requireIssuer_yields caller basket)

theorem keepsReplay_recordOf (d : Desk) (basket : Address) :
    KeepsReplay z records balance (recordOf d basket) :=
  keepsReplay_of_eq fun s => (recordOf_yields d basket s).yields fun _ _ h => h.1

theorem keepsReplay_supplyOf (basket : Address) :
    KeepsReplay z records balance (supplyOf basket) :=
  keepsReplay_of_eq (supplyOf_yields basket)

theorem keepsReplay_balancesOf (r : Record) (basket : Address) :
    KeepsReplay z records balance (balancesOf r basket) := by
  intro s hs
  rw [ends_balancesOf]
  exact ⟨fun _ _ => hs, fun _ _ => trivial⟩

theorem keepsReplay_theBasket (basket : Address) :
    KeepsReplay z records balance (ledger (Chain.theBasket basket)) := by
  intro s hs
  rw [ends_ledger, Chain.ends_theBasket]
  exact ⟨fun _ _ => hs, fun _ => trivial⟩

theorem keepsReplay_lending {params : MarketParams} {x : Bank.Call α}
    (hx : ∀ b, (x.run b).Yields fun _ b' => b.Pledged params basket 0 b') :
    KeepsReplay z records balance (lending x) := by
  intro s hs
  rw [ends_lending]
  refine (hx s.chain.toBank).yields fun _ b hb => ⟨hs.kept, ?_⟩
  exact Lending.Pool.PledgedIn.unchanged hs.pledged hb

theorem keepsReplay_accrue (params : MarketParams) :
    KeepsReplay z records balance (lending (Bank.accrue params)) :=
  keepsReplay_lending (Bank.pledged_accrue params z)

theorem keepsReplay_borrow (params : MarketParams) (basket : Address) (assets : Amount) :
    KeepsReplay z records balance (lending (Bank.borrow params basket assets basket)) :=
  keepsReplay_lending (Bank.pledged_borrow params basket assets basket)

theorem keepsReplay_repay (params : MarketParams) (basket : Address)
    (amount : Lending.RepayAmount) :
    KeepsReplay z records balance (lending (Bank.repay params basket amount)) :=
  keepsReplay_lending (Bank.pledged_repay params basket amount)

theorem keepsReplay_repayCapped (r : Record) (basket : Address) (available : Amount) :
    KeepsReplay z records balance (repayCapped r basket available) := by
  refine .bind (keepsReplay_balancesOf r basket) fun balances => .ite (fun _ => .pure _) fun _ => ?_
  exact .bind (keepsReplay_repay _ _ _) fun _ => .pure _

theorem keepsReplay_trade (p : TradePlan) (route : Bytes) :
    KeepsReplay z records balance (trade p route) :=
  keepsReplay_of_books fun s => keepsBooks_trade p route s rfl |>.yields fun _ _ h => h

theorem keepsReplay_chargeFee (d : Desk) (basket asset : Address) (amount : Amount) :
    KeepsReplay z records balance (chargeFee d basket asset amount) :=
  keepsReplay_of_books fun s => keepsBooks_chargeFee d basket asset amount s rfl |>.yields
    fun _ _ h => h

theorem keepsReplay_writePositions (d : Desk) (basket : Address) (r : Record) (supply : Amount) :
    KeepsReplay z records balance (writePositions d basket r supply) :=
  keepsReplay_of_books fun s => (writePositions_yields d basket r supply s).yields
    fun _ _ h => h.1

theorem keepsReplay_writeResidual (r : Record) (basket : Address) (supply : Amount) :
    KeepsReplay z records balance (writeResidual r basket supply) :=
  keepsReplay_of_books fun s => (writeResidual_yields r basket supply s).yields fun _ _ h => h.1

theorem keepsReplay_writeDebt (d : Desk) (basket : Address) (r : Record) (borrow supply : Amount) :
    KeepsReplay z records balance (writeDebt d basket r borrow supply) := by
  refine .bind (keepsReplay_compute _) fun unit => .bind (keepsReplay_of_books fun s => ?_)
    fun _ => .pure _
  refine (writeExternal_yields d basket _ unit s).yields ?_
  rintro _ _ ⟨c, hwrote, rfl⟩
  exact congrArg (fun b : Bank => (b.pool, s.records, s.events)) hwrote.toBank

/-- An event that is not about collateral. -/
theorem keepsReplay_emit (h : payload.growth z = 0) :
    KeepsReplay z records balance (emit payload) := by
  intro s hs
  rw [← Int.add_zero balance] at hs
  exact hs.say h

/-! ## Steps that move collateral, or say so -/

/-- **Collateral that is moved** in the market of the basket's record is not said yet. -/
theorem lending_replays {x : Bank.Call α} (hs : s.Replays z records balance)
    (hr : records.get? basket = some r) (hmarket : r.market = r.params.id)
    (hx : ∀ b, (x.run b).Yields fun _ b' => b.Pledged r.params basket change b') :
    ((lending x).run s).Yields fun _ s' =>
      s'.Replays z records (balance + if basket = z then change else 0) := by
  rw [Outcome.Yields, ends_lending]
  refine (hx s.chain.toBank).yields fun _ b hb => ⟨hs.kept, ?_⟩
  rw [Int.add_right_comm]
  refine Lending.Pool.PledgedIn.pledged hs.pledged hb fun hz => ?_
  rw [← hz, marketOf_eq hr, hmarket]

/-- Positions are rewritten, and what has been moved is said. -/
theorem report_replays {value : SyncReport → α} {payload : SyncReport → EventPayload}
    (hs : s.Replays z records (balance + change)) (h : ∀ report, (payload report).growth z = change)
    (d : Desk) (basket : Address) (r : Record) (supply : Amount) :
    ((do
      let report ← writePositions d basket r supply
      emit (payload report)
      pure (value report) : Operation α).run s).Yields
        fun _ s' => s'.Replays z records balance := by
  refine Action.yields_bind (keepsReplay_writePositions d basket r supply s hs) ?_
  intro report s' hs'
  exact hs'.say (h report)

/-! ## Operations on the position -/

/-- **Entering** says what it has deposited. -/
theorem enter_replays (hs : s.Replays z records balance)
    (hrecords : SoundRecords Set.univ records) (caller basket : Address) (d : Desk) :
    ((enter caller basket d).run s).Yields fun _ s' =>
      ∃ records', s'.Replays z records' balance := by
  refine (enter_yields caller basket d s).yields ?_
  rintro _ s' ⟨r, notional, unit, hr, hsupply, hkept, hevents⟩
  rw [hs.kept] at hr hkept
  have hpledged := (Bank.pledged_supplyCollateral r.params basket notional _).done hsupply
  have hsame : marketOf (records.insert basket { r with entered := true }) z =
      marketOf records z := marketOf_insert hr rfl
  refine ⟨_, hkept, ?_⟩
  rw [hsame, hevents, growthOf_append, growthOf_singleton, ← Int.add_assoc]
  refine Lending.Pool.PledgedIn.pledged hs.pledged hpledged fun hz => ?_
  rw [← hz, marketOf_eq hr, (hrecords basket r hr).market]

/-- **Levering** says what it has received, and the fee, and has deposited the difference. -/
theorem lever_replays (hs : s.Replays z records balance)
    (hrecords : SoundRecords Set.univ records) (caller basket : Address)
    (borrowUnits minReceiveUnits : Amount) (adapterName : String) (route : Bytes) (d : Desk) :
    ((lever caller basket borrowUnits minReceiveUnits adapterName route d).run s).Yields
      fun _ s' => s'.Replays z records balance := by
  rw [lever]
  refine Action.yields_bind (enteredRecord_yields d caller basket s) ?_
  rintro r _ ⟨rfl, hr⟩
  rw [hs.kept] at hr
  refine Action.yields_bind (keepsReplay_accrue r.params _ hs) fun _ s₁ hs₁ => ?_
  refine Action.yields_bind (planPerToken_yields d basket _ _ borrowUnits minReceiveUnits
    adapterName s₁) ?_
  rintro p _ ⟨rfl, -⟩
  refine Action.yields_bind (keepsReplay_borrow r.params basket p.sendQuantity _ hs₁) ?_
  intro borrowed s₂ hs₂
  refine Action.yields_bind (keepsReplay_trade p route s₂ hs₂) fun received s₃ hs₃ => ?_
  refine Action.yields_bind (keepsReplay_chargeFee d basket _ received s₃ hs₃) ?_
  intro fee s₄ hs₄
  refine Action.yields_bind (compute_yields _ s₄) ?_
  rintro net _ ⟨hnet, rfl⟩
  have hsaid : (EventPayload.leverageIncreased ⟨basket, r.params.loanAsset,
      r.params.collateralAsset, p.adapterName, borrowed.assets, received, fee⟩).growth z =
        if basket = z then (net.toNat : Int) else 0 := by
    have hsplit : (received.toNat : Int) - fee.toNat = net.toNat := by
      have := Amount.sub_eq_ok.1 hnet
      omega
    rw [EventPayload.growth, hsplit]
  split
  case isTrue hnone =>
    rw [← Int.add_zero balance] at hs₄
    refine report_replays hs₄ (fun _ => ?_) d basket r p.supply
    rw [hsaid, hnone, Word.toNat_zero]
    exact ite_self _
  case isFalse =>
    have hmarket := (hrecords basket r hr).market
    refine Action.yields_bind (lending_replays hs₄ hr hmarket
      (Bank.pledged_supplyCollateral r.params basket net)) fun _ s₅ hs₅ => ?_
    exact report_replays hs₅ (fun _ => hsaid) d basket r p.supply

/-- A sale of collateral withdraws what is to be sold. -/
theorem sellCollateral_replays (hs : s.Replays z records balance) {p : TradePlan}
    (hr : records.get? p.basket = some r) (hmarket : r.market = r.params.id) (d : Desk)
    (route : Bytes) : ((sellCollateral d r p route).run s).Yields fun _ s' => s'.Replays z records
      (balance + if p.basket = z then -(p.sendQuantity.toNat : Int) else 0) := by
  rw [sellCollateral]
  refine Action.yields_bind (lending_replays hs hr hmarket
    (Bank.pledged_withdrawCollateral r.params p.basket p.sendQuantity p.basket)) ?_
  intro _ s₁ hs₁
  refine Action.yields_bind (keepsReplay_trade p route s₁ hs₁) fun received s₂ hs₂ => ?_
  refine Action.yields_bind (keepsReplay_chargeFee d p.basket _ received s₂ hs₂) ?_
  intro fee s₃ hs₃
  exact Action.yields_bind (keepsReplay_compute _ s₃ hs₃) fun net s₄ hs₄ => hs₄

/-- Both ways down end with saying what has been sold. -/
theorem finishDelever_replays {p : TradePlan}
    (hs : s.Replays z records
      (balance + if p.basket = z then -(p.sendQuantity.toNat : Int) else 0))
    (d : Desk) (r : Record) (received fee repaid : Amount) :
    ((finishDelever d r p received fee repaid).run s).Yields fun _ s' =>
      s'.Replays z records balance := by
  rw [finishDelever]
  refine Action.yields_bind (keepsReplay_writeResidual r p.basket p.supply s hs) ?_
  intro residual s₁ hs₁
  refine Action.yields_bind (keepsReplay_writePositions d p.basket r p.supply s₁ hs₁) ?_
  intro report s₂ hs₂
  rw [Outcome.Yields, Action.ends_bind, Action.ends_read, Errand.ends_emit]
  have hrest (fully : Bool) (value : DeleverReport) : KeepsReplay z records balance (do
      if fully then emit (.fullyDelevered p.basket r.params.loanAsset residual) else pure ()
      pure value) :=
    .ite (fun _ => .bind (keepsReplay_emit rfl) fun _ => .pure _) fun _ => .pure _
  exact hrest _ _ _ (hs₂.say rfl)

/-- **Delevering** says what it has sold. -/
theorem delever_replays (hs : s.Replays z records balance)
    (hrecords : SoundRecords Set.univ records) (caller basket : Address)
    (redeemUnits minRepayUnits : Amount) (adapterName : String) (route : Bytes) (d : Desk) :
    ((delever caller basket redeemUnits minRepayUnits adapterName route d).run s).Yields
      fun _ s' => s'.Replays z records balance := by
  rw [delever]
  refine Action.yields_bind (enteredRecord_yields d caller basket s) ?_
  rintro r _ ⟨rfl, hr⟩
  rw [hs.kept] at hr
  refine Action.yields_bind (keepsReplay_accrue r.params _ hs) fun _ s₁ hs₁ => ?_
  refine Action.yields_bind (planPerToken_yields d basket _ _ redeemUnits minRepayUnits
    adapterName s₁) ?_
  rintro p _ ⟨rfl, rfl⟩
  have hmarket := (hrecords p.basket r hr).market
  refine Action.yields_bind (sellCollateral_replays hs₁ hr hmarket d route) ?_
  rintro ⟨received, fee, net⟩ s₂ hs₂
  refine Action.yields_bind (keepsReplay_repayCapped r p.basket net s₂ hs₂) ?_
  intro repaid s₃ hs₃
  exact finishDelever_replays hs₃ d r received fee repaid

/-- **Delevering to zero** does as well. -/
theorem deleverToZero_replays (hs : s.Replays z records balance)
    (hrecords : SoundRecords Set.univ records) (caller basket : Address) (redeemUnits : Amount)
    (adapterName : String) (route : Bytes) (d : Desk) :
    ((deleverToZero caller basket redeemUnits adapterName route d).run s).Yields
      fun _ s' => s'.Replays z records balance := by
  rw [deleverToZero]
  refine Action.yields_bind (enteredRecord_yields d caller basket s) ?_
  rintro r _ ⟨rfl, hr⟩
  rw [hs.kept] at hr
  refine Action.yields_bind (keepsReplay_accrue r.params _ hs) fun _ s₁ hs₁ => ?_
  refine Action.yields_bind (keepsReplay_balancesOf r basket s₁ hs₁) fun balances s₂ hs₂ => ?_
  have hrequire (p : Prop) [Decidable p] (e : LeverageError) (balance : Int) :
      KeepsReplay z records balance (.require p e) := .require p fun _ _ => trivial
  refine Action.yields_bind (hrequire _ _ _ s₂ hs₂) fun _ s₃ hs₃ => ?_
  refine Action.yields_bind (keepsReplay_supplyOf basket s₃ hs₃) fun supply s₄ hs₄ => ?_
  refine Action.yields_bind (keepsReplay_compute _ s₄ hs₄) fun sendQuantity s₅ hs₅ => ?_
  refine Action.yields_bind (plan_yields d basket _ _ sendQuantity balances.borrow adapterName
    s₅) ?_
  rintro p _ ⟨rfl, rfl, -⟩
  have hmarket := (hrecords p.basket r hr).market
  refine Action.yields_bind (sellCollateral_replays hs₅ hr hmarket d route) ?_
  rintro ⟨received, fee, net⟩ s₆ hs₆
  refine Action.yields_bind (hrequire _ _ _ s₆ hs₆) fun _ s₇ hs₇ => ?_
  refine Action.yields_bind (keepsReplay_repay r.params p.basket _ s₇ hs₇) fun moved s₈ hs₈ => ?_
  exact finishDelever_replays hs₈ d r received fee moved.assets

/-! ## Enrolling and letting go -/

/-- **Enrolling** a basket assigns it a market, in which it has nothing yet. -/
theorem enrol_replays (hs : s.Replays z records balance) (caller basket : Address)
    (params : MarketParams) (d : Desk) :
    ((enrol caller basket params d).run s).Yields fun _ s' =>
      ∃ records', s'.Replays z records' balance := by
  refine (enrol_yields caller basket params d s).yields ?_
  rintro _ s' ⟨b, m, issuer, hnone, -, -, hbooks⟩
  rw [hs.kept] at hnone hbooks
  by_cases hz : z = basket
  · subst hz
    have hfree : marketOf records z = none := by
      rw [marketOf, hnone, Option.map_none]
    have hpledged := hs.pledged
    rw [hfree] at hpledged
    obtain ⟨hpool, hkept, hevents⟩ := Session.books_eq hbooks
    refine ⟨_, hkept, ?_⟩
    rw [hpool, hevents, growthOf_append, growthOf_singleton, EventPayload.growth, Int.add_zero]
    exact hpledged.assign _
  · exact ⟨_, hs.handOver hbooks (marketOf_insert_of_ne hz) rfl⟩

theorem registerIssuer_replays (hs : s.Replays z records balance) (caller basket issuer : Address)
    (d : Desk) : ((registerIssuer caller basket issuer d).run s).Yields fun _ s' =>
      ∃ records', s'.Replays z records' balance := by
  refine (registerIssuer_yields caller basket issuer d s).yields ?_
  rintro _ s' ⟨r, hr, hbooks⟩
  rw [hs.kept] at hr hbooks
  exact ⟨_, hs.handOver hbooks (marketOf_insert hr rfl) rfl⟩

/-- **Letting go** says what it has withdrawn, and that was all. -/
theorem letGo_replays (hs : s.Replays z records balance)
    (hrecords : SoundRecords Set.univ records) (caller basket : Address) (d : Desk) :
    ((letGo caller basket d).run s).Yields fun _ s' =>
      ∃ records', s'.Replays z records' balance := by
  refine (letGo_yields caller basket d s).yields ?_
  rintro withdrawn s' ⟨r, b, hr, haccrue, hall, hmoved, hkept, hevents⟩
  rw [hs.kept] at hr hkept
  have hmarket := (hrecords basket r hr).market
  have haccrued : b.pool.PledgedIn (marketOf records z) z (balance + growthOf z s.events) :=
    hs.pledged.unchanged ((Bank.pledged_accrue r.params z _).done haccrue)
  have hsaid : growthOf z s'.events =
      growthOf z s.events + if basket = z then -(withdrawn.toNat : Int) else 0 := by
    rw [hevents, growthOf_append, growthOf_singleton, EventPayload.growth]
  have hleft : s'.chain.pool.PledgedIn (marketOf records z) z
      (balance + growthOf z s'.events) := by
    rw [hsaid, ← Int.add_assoc]
    obtain ⟨hnone, hbank⟩ | hwithdraw := hmoved
    · rw [hnone, congrArg Bank.pool hbank]
      simpa using haccrued
    · have hpledged := (Bank.pledged_withdrawCollateral r.params basket withdrawn basket b).done
        hwithdraw
      refine haccrued.pledged hpledged fun hz => ?_
      rw [← hz, marketOf_eq hr, hmarket]
  refine ⟨_, hkept, ?_⟩
  by_cases hz : z = basket
  · subst hz
    -- all that the basket had was in this market, so nothing is left
    have hamount : balance + growthOf z s'.events = 0 := by
      have hinside := haccrued.inside r.market (marketOf_eq hr)
      rw [Lending.Pool.pledged, ← hall] at hinside
      rw [hsaid, if_pos rfl]
      omega
    rw [hamount] at hleft ⊢
    have hfree : marketOf (records.erase z) z = none := by
      rw [marketOf, FiniteMap.get?_erase_self, Option.map_none]
    rw [hfree]
    exact hleft.drop
  · rw [marketOf_erase_of_ne hz]
    exact hleft

/-! ## Synchronizing and hooks -/

theorem keepsReplay_syncPositions (d : Desk) (basket : Address) (r : Record) :
    KeepsReplay z records balance (syncPositions d basket r) := by
  refine .bind (keepsReplay_supplyOf basket) fun supply => .ite (fun _ => .pure _) fun _ => ?_
  refine .bind (keepsReplay_accrue r.params) fun _ => ?_
  refine .bind (keepsReplay_writePositions d basket r supply) fun report => ?_
  exact .bind (keepsReplay_emit rfl) fun _ => .pure _

theorem keepsReplay_syncDebtForSupply (d : Desk) (basket : Address) (r : Record)
    (supply : Amount) : KeepsReplay z records balance (syncDebtForSupply d basket r supply) := by
  refine .ite (fun _ => .pure _) fun _ => .bind (keepsReplay_accrue r.params) fun _ => ?_
  refine .bind (keepsReplay_balancesOf r basket) fun balances => ?_
  refine .bind (keepsReplay_writeDebt d basket r balances.borrow supply) fun unit => ?_
  refine .bind (keepsReplay_theBasket basket) fun b => ?_
  exact .bind (keepsReplay_compute _) fun notional => keepsReplay_emit rfl

theorem keepsReplay_sync (d : Desk) (basket : Address) :
    KeepsReplay z records balance (do
      let r ← recordOf d basket
      syncPositions d basket r) :=
  .bind (keepsReplay_recordOf d basket) fun r => keepsReplay_syncPositions d basket r

theorem keepsReplay_moduleHook (caller basket : Address) (d : Desk) :
    KeepsReplay z records balance (moduleHook caller basket d) :=
  .bind (keepsReplay_requireIssuer caller basket) fun _ => keepsReplay_sync d basket

theorem keepsReplay_debtUnit (d : Desk) (r : Record) (basket component : Address) :
    KeepsReplay z records balance (debtUnit d r basket component) :=
  keepsReplay_of_eq fun s => (debtUnit_yields d r basket component s).yields fun _ _ h => h.1

/-- Component hooks end alike. -/
theorem keepsReplay_hookEnd (d : Desk) (basket : Address) (r : Record)
    (adjust : Amount → Except MathError Amount) (payload : EventPayload)
    (h : payload.growth z = 0) (value : Amount) : KeepsReplay z records balance (do
      if d.settings.syncOnHook then do
        let supply ← supplyOf basket
        let adjusted ← compute (adjust supply)
        syncDebtForSupply d basket r adjusted
      else pure ()
      emit payload
      pure value) := by
  have hsay : KeepsReplay z records balance (do emit payload; pure value) :=
    .bind (keepsReplay_emit h) fun _ => .pure _
  refine .ite (fun _ => .bind (keepsReplay_supplyOf basket) fun supply => ?_) fun _ => hsay
  refine .bind (keepsReplay_compute _) fun adjusted => ?_
  exact .bind (keepsReplay_syncDebtForSupply d basket r adjusted) fun _ => hsay

theorem keepsReplay_issueHook (caller basket : Address) (quantity : Amount) (component : Address)
    (isEquity : Bool) (d : Desk) :
    KeepsReplay z records balance (issueHook caller basket quantity component isEquity d) := by
  refine .bind (keepsReplay_requireIssuer caller basket) fun _ => ?_
  refine .bind (keepsReplay_recordOf d basket) fun r => .ite (fun _ => .pure _) fun _ => ?_
  refine .bind (keepsReplay_debtUnit d r basket component) fun unit => ?_
  refine .bind (keepsReplay_compute _) fun notional => ?_
  have hend : KeepsReplay z records balance _ := keepsReplay_hookEnd d basket r
    (Amount.add · quantity) (.issueHookBorrowed ⟨basket, component, quantity, notional⟩) rfl
    notional
  refine .ite (fun _ => hend) fun _ => ?_
  exact .bind (keepsReplay_borrow r.params basket notional) fun _ => hend

theorem keepsReplay_redeemHook (caller basket : Address) (quantity : Amount)
    (component : Address) (isEquity : Bool) (d : Desk) :
    KeepsReplay z records balance (redeemHook caller basket quantity component isEquity d) := by
  refine .bind (keepsReplay_requireIssuer caller basket) fun _ => ?_
  refine .bind (keepsReplay_recordOf d basket) fun r => .ite (fun _ => .pure _) fun _ => ?_
  refine .bind (keepsReplay_debtUnit d r basket component) fun unit => ?_
  refine .bind (keepsReplay_compute _) fun owed => ?_
  refine .bind (keepsReplay_repayCapped r basket owed) fun repaid => ?_
  exact keepsReplay_hookEnd d basket r (Amount.sub · quantity)
    (.redeemHookRepaid ⟨basket, component, quantity, repaid⟩) rfl repaid

end Operation

/-! ## Requests -/

section Requests

variable {w w' v : World} {basket z : Address} {balance : Int}

/-- **An operation that keeps the balance** adds to the collateral what it says. -/
theorem World.Replays.operate {α : Type} {op : Desk → Operation α} (hw : w.Replays z balance)
    (h : (⟨w.chain, w.desk.records, []⟩ : Session).Replays z w.desk.records balance →
      ((op w.desk).run ⟨w.chain, w.desk.records, []⟩).Yields fun _ s' =>
        ∃ records', s'.Replays z records' balance) :
    ((World.operate op).run w).Ends
      (fun _ w' => w'.Replays z (balance + growthOf z (w.said op)))
      fun _ w' => w'.Replays z (balance + growthOf z (w.said op)) := by
  have hstart : (⟨w.chain, w.desk.records, []⟩ : Session).Replays z w.desk.records balance := by
    refine ⟨rfl, ?_⟩
    rw [growthOf, Int.add_zero]
    exact hw
  have hends := h hstart
  change (World.operate op w).Ends _ _
  unfold World.operate World.said Action.run
  unfold Action.run at hends
  generalize op w.desk ⟨w.chain, w.desk.records, []⟩ = outcome at hends ⊢
  cases outcome with
  | done a s =>
    obtain ⟨records', hreplays⟩ := hends
    dsimp only
    split
    case h_1 desk hdesk =>
      obtain ⟨log, rfl⟩ := publish?_eq_some hdesk
      have hpledged := hreplays.pledged
      rw [← hreplays.kept] at hpledged
      exact hpledged
    case h_2 => trivial
  | refused e s => exact (Int.add_zero balance).symm ▸ hw
  | aborted => trivial

/-- Where the records are kept as well. -/
theorem World.Replays.operate_kept {α : Type} {op : Desk → Operation α} (hw : w.Replays z balance)
    (h : (⟨w.chain, w.desk.records, []⟩ : Session).Replays z w.desk.records balance →
      ((op w.desk).run ⟨w.chain, w.desk.records, []⟩).Yields fun _ s' =>
        s'.Replays z w.desk.records balance) :
    ((World.operate op).run w).Ends
      (fun _ w' => w'.Replays z (balance + growthOf z (w.said op)))
      fun _ w' => w'.Replays z (balance + growthOf z (w.said op)) :=
  hw.operate fun hs => (h hs).yields fun _ _ hs' => ⟨_, hs'⟩

theorem World.Replays.aside (hw : w.Replays z balance)
    (h : w'.chain = w.chain ∧ w'.desk.records = w.desk.records) : w'.Replays z balance := by
  rw [World.Replays, h.1, h.2]
  exact hw

/-- **An operation on a basket** says how much collateral it moves, of this basket and of others. -/
theorem BasketOperation.after_replays {operation : BasketOperation} (horderly : w.Orderly Set.univ)
    (hw : w.Replays z balance) (h : (operation.perform basket).after w = some w') :
    w'.Replays z (balance + growthOf z (operation.announces basket w)) := by
  have hrecords := horderly.records
  cases operation with
  | setAllowed caller allowed =>
    have hquiet : growthOf z ((setAllowed caller allowed).announces basket w) = 0 := by
      rw [announces]
      split <;> rfl
    rw [hquiet, Int.add_zero]
    exact hw.aside ((World.setAllowed_aside caller basket allowed w).state h)
  | enrol caller params =>
    exact (hw.operate fun hs => Operation.enrol_replays hs _ _ _ _).state h
  | registerIssuer caller issuer =>
    exact (hw.operate fun hs => Operation.registerIssuer_replays hs _ _ _ _).state h
  | letGo caller =>
    exact (ends_forget (hw.operate fun hs => Operation.letGo_replays hs hrecords _ _ _)).state h
  | enter caller =>
    exact (ends_forget (hw.operate fun hs => Operation.enter_replays hs hrecords _ _ _)).state h
  | lever caller borrowUnits minReceiveUnits adapterName route =>
    exact (ends_forget (hw.operate_kept fun hs =>
      Operation.lever_replays hs hrecords _ _ _ _ _ _ _)).state h
  | delever caller redeemUnits minRepayUnits adapterName route =>
    exact (ends_forget (hw.operate_kept fun hs =>
      Operation.delever_replays hs hrecords _ _ _ _ _ _ _)).state h
  | deleverToZero caller redeemUnits adapterName route =>
    exact (ends_forget (hw.operate_kept fun hs =>
      Operation.deleverToZero_replays hs hrecords _ _ _ _ _ _)).state h
  | sync =>
    exact (ends_forget (hw.operate_kept (Operation.keepsReplay_sync _ _ _))).state h
  | moduleHook caller =>
    exact (ends_forget (hw.operate_kept (Operation.keepsReplay_moduleHook _ _ _ _))).state h
  | issueHook caller quantity component isEquity =>
    exact (ends_forget (hw.operate_kept (Operation.keepsReplay_issueHook _ _ _ _ _ _ _))).state h
  | redeemHook caller quantity component isEquity =>
    exact (ends_forget (hw.operate_kept (Operation.keepsReplay_redeemHook _ _ _ _ _ _ _))).state h

/-- **A request that keeps off** adds to the collateral what is said of it. -/
theorem Request.after_replays {r : Request} (horderly : w.Orderly Set.univ)
    (hw : w.Replays z balance) (hr : r.KeepsOff z w) (h : r.after w = some w') :
    w'.Replays z (balance + growthOf z (r.announces w)) := by
  cases r with
  | chain q =>
    obtain ⟨c, hc, rfl⟩ := Option.map_eq_some_iff.1 h
    rw [announces, growthOf, Int.add_zero]
    exact ChainRequest.pledgedIn_after hr.1 hr.2 hc hw
  | desk q =>
    cases q with
    | basket address operation => exact operation.after_replays horderly hw h
    | setTime time =>
      exact (Int.add_zero balance).symm ▸ hw.aside (DeskRequest.after_aside (by simp) h)
    | advanceTime delay =>
      exact (Int.add_zero balance).symm ▸ hw.aside (DeskRequest.after_aside (by simp) h)
    | setAnyAllowed caller anyAllowed =>
      have hquiet : growthOf z ((DeskRequest.setAnyAllowed caller anyAllowed).announces w) = 0 := by
        rw [DeskRequest.announces]
        split <;> rfl
      rw [announces, hquiet, Int.add_zero]
      exact hw.aside (DeskRequest.after_aside (by simp) h)

/-- **All that is told** is how the collateral has changed. -/
theorem World.Replays.runs {requests : List Request} (hw : w.Replays z balance)
    (horderly : w.Orderly Set.univ) (hoff : World.Along (Request.KeepsOff z) requests w)
    (h : World.runs requests w = some v) :
    v.Replays z (balance + growthOf z (World.told requests w)) := by
  induction requests generalizing w balance with
  | nil =>
    obtain rfl : w = v := Option.some.inj h
    rw [World.told, growthOf, Int.add_zero]
    exact hw
  | cons r rest ih =>
    obtain ⟨u, hafter, hrest⟩ := Option.bind_eq_some_iff.1 h
    have hreplays := ih (Request.after_replays horderly hw hoff.1 hafter)
      (Request.after_orderly horderly hafter) (hoff.2 u hafter) hrest
    rw [World.told, hafter, Option.elim_some, growthOf_append, ← Int.add_assoc]
    exact hreplays

/-- **The events replay the collateral.** Let a basket have no collateral in any market of a world
that can come about, and let requests be made from there on that keep off its position: operations
on whatever baskets, gone through or not, and calls of others. Then what is in the log is the end of
all that has been told. With all of it, also what the log has forgotten, the collateral entered, and
what leverings have received less their fees, less what deleverings have sold and removals have
withdrawn, is what the basket has in the market of its record; and it is nothing if the basket has
no record. -/
theorem World.Reachable.events_replay (hw : w.Reachable)
    (hnone : ∀ id, w.chain.pool.pledged id basket = 0) {requests : List Request}
    (hoff : World.Along (Request.KeepsOff basket) requests w)
    (h : World.runs requests w = some v) :
    v.desk.log.payloads = latest w.desk.settings.maxEvents.toNat
        (w.desk.log.payloads ++ World.told requests w) ∧
      (∀ r, v.desk.records.get? basket = some r →
        growthOf basket (World.told requests w) = v.chain.pool.pledged r.market basket) ∧
      (v.desk.records.get? basket = none →
        growthOf basket (World.told requests w) = 0) := by
  have hstart : w.Replays basket 0 := by
    refine ⟨fun id _ => ?_, fun id _ => hnone id, fun _ => rfl⟩
    rw [hnone]
    rfl
  have hreplays := hstart.runs hw.orderly hoff h
  rw [Int.zero_add] at hreplays
  refine ⟨World.log_runs hw.log_le h, fun r hr => ?_, fun hfree => ?_⟩
  · exact (hreplays.inside r.market (marketOf_eq hr)).symm
  · refine hreplays.nowhere ?_
    rw [marketOf, hfree, Option.map_none]

end Requests

/-- Settings under which the log holds two events. -/
def forgetful : Settings := { Settings.usual with maxEvents := Deployment.number 2 }

open Deployment in
/-- The requests after which the basket is levered, at a fee of half a part in a hundred. -/
def charging : List Request :=
  entering ++ [.chain (.registry (.setFee holder forgetful.feeIndex ⟨number 50⟩)),
    .desk (.basket Deployment.basket (.lever manager thousandUsdc 0 adapterName []))]

open Deployment in
/-- So it is for the basket of the reference deployment once it is levered, though the log has
forgotten the first events by then. -/
theorem World.events_replay_of_charging : ∃ v r,
    World.runs charging (start forgetful) = some v ∧
    v.desk.records.get? Deployment.basket = some r ∧
    v.desk.log.payloads = latest forgetful.maxEvents.toNat
      ((start forgetful).desk.log.payloads ++ World.told charging (start forgetful)) ∧
    v.desk.log.payloads.length < (World.told charging (start forgetful)).length ∧
    growthOf Deployment.basket (World.told charging (start forgetful)) =
      v.chain.pool.pledged r.market Deployment.basket ∧
    0 < v.chain.pool.pledged r.market Deployment.basket := by
  have hlevers : ((World.runs charging (start forgetful)).bind fun v =>
      (v.desk.records.get? Deployment.basket).map fun r =>
        decide (World.Along (Request.KeepsOff Deployment.basket) charging (start forgetful) ∧
          v.desk.log.payloads.length < (World.told charging (start forgetful)).length ∧
          0 < v.chain.pool.pledged r.market Deployment.basket)) = some true := by decide +kernel
  obtain ⟨v, hv, hlevers⟩ := Option.bind_eq_some_iff.1 hlevers
  obtain ⟨r, hr, hlevers⟩ := Option.map_eq_some_iff.1 hlevers
  obtain ⟨hoff, hforgotten, hsome⟩ := of_decide_eq_true hlevers
  have hreachable : (start forgetful).Reachable :=
    ⟨pool, router, feeRecipient, holder, owner, forgetful, [], rfl⟩
  obtain ⟨hlog, hreplays, -⟩ := World.Reachable.events_replay hreachable (fun _ => rfl) hoff hv
  exact ⟨v, r, hv, hr, hlog, hforgotten, hreplays r hr, hsome⟩

end Leverage

end LeveredBasket
