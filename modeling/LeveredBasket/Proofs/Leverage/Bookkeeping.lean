/-
What operations write on the ledger.

Besides what it does to tokens and the pool, an operation writes positions of its
basket (`position::write_position`), and no others than the record of the basket allows
(`Record.Allows`). So what it leaves of the chain has come about by bookkeeping
(`Chain.Bookkept`), and what calls on the bank and such positions keep, the operation
keeps (`Bookkept.keeps`).

Four operations change the record as well. For each of them there is one statement of
all that it does to the ledger, to the record and to the hooks (`enrol_books`,
`registerIssuer_books`, `enter_books`, `letGo_books`). What any operation has done is
one of six effects (`BasketOperation.effect`), so that whoever wants to know whether an
invariant of ledger, hooks and records survives looks at those and at no operation.
-/
import LeveredBasket.Proofs.Ledger
import LeveredBasket.Proofs.Leverage.Trade

set_option autoImplicit false

namespace LeveredBasket

open Lending (Bank MarketParams)

namespace Leverage

/-- **What may be written for a basket with this record**: a debt in the loan asset and a holding of
collateral that has been entered, on the account of the desk, and a holding of the loan asset as the
basket's own. -/
inductive Record.Allows (holder : Address) (r : Record) : Position → Prop
  | debt {unit : PositionUnit} (h : unit.value.toInt ≤ 0) :
    r.Allows holder (.ofExternal r.params.loanAsset holder unit)
  | collateral {unit : PositionUnit} (hentered : r.entered = true) (h : 0 ≤ unit.value.toInt) :
    r.Allows holder (.ofExternal r.params.collateralAsset holder unit)
  | residual {unit : PositionUnit} (h : 0 ≤ unit.value.toInt) :
    r.Allows holder (.ofDefault r.params.loanAsset unit)

end Leverage

open Leverage (Record)

/-- **`c'` comes of `c` by bookkeeping**: by calls on the bank, and by positions written for the
basket that its record allows. -/
def Chain.Bookkept (holder basket : Address) (r : Record) : Chain → Chain → Prop :=
  Relation.ReflTransGen fun c c' =>
    (∃ b, c' = { c with toBank := b }) ∨ ∃ p, r.Allows holder p ∧ Chain.Wrote basket p c c'

/-- **`c'` is `c` with the books of a basket closed**: the desk has no unit of the loan asset any
more, nor of collateral that has been entered, which may have become the basket's own. -/
inductive Chain.Closed (holder basket : Address) (r : Record) (c c' : Chain) : Prop
  | debt (hentered : r.entered = false)
    (hdebt : Chain.Wrote basket (.ofExternal r.params.loanAsset holder .zero) c c')
  | holding {c₁ : Chain} (hentered : r.entered = true)
    (hdebt : Chain.Wrote basket (.ofExternal r.params.loanAsset holder .zero) c c₁)
    (hholding : Chain.Wrote basket (.ofExternal r.params.collateralAsset holder .zero) c₁ c')
  | restored {c₁ c₂ : Chain} {unit : PositionUnit} (hentered : r.entered = true)
    (hdebt : Chain.Wrote basket (.ofExternal r.params.loanAsset holder .zero) c c₁)
    (hholding : Chain.Wrote basket (.ofExternal r.params.collateralAsset holder .zero) c₁ c₂)
    (hunit : 0 ≤ unit.value.toInt)
    (hrestored : Chain.Wrote basket (.ofDefault r.params.collateralAsset unit) c₂ c')

namespace Leverage

/-- Whether an operation leaves the record of its basket, and is about more than permission. -/
def BasketOperation.adjusts : BasketOperation → Bool
  | .lever .. | .delever .. | .deleverToZero .. | .sync | .moduleHook _ | .issueHook .. |
    .redeemHook .. => true
  | .setAllowed .. | .enrol .. | .registerIssuer .. | .letGo _ | .enter _ => false

/-- The record with an orchestrator among those with which the desk has registered its hooks,
once. -/
def Record.withIssuer (r : Record) (issuer : Address) : Record :=
  { r with issuers := if issuer ∈ r.issuers then r.issuers else r.issuers ++ [issuer] }

/-- **What an operation on a basket that goes through has done** to the ledger, the hooks and the
records. -/
inductive BasketOperation.Effect (basket : Address) (w w' : World) : BasketOperation → Prop
  | listed {caller : Address} {allowed : Bool} (hchain : w'.chain = w.chain)
    (hrecords : w'.desk.records = w.desk.records) : Effect basket w w' (.setAllowed caller allowed)
  | kept {operation : BasketOperation} {r : Record} (hadjusts : operation.adjusts = true)
    (hr : w.desk.records.get? basket = some r)
    (hchain : Chain.Bookkept w.desk.address basket r w.chain w'.chain)
    (hrecords : w'.desk.records = w.desk.records) : Effect basket w w' operation
  | enrolled {caller issuer : Address} {params : MarketParams} {b : Basket}
    (hnew : w.desk.records.get? basket = none) (hb : w.chain.baskets.get? basket = some b)
    (hdistinct : params.collateralAsset ≠ params.loanAsset)
    (hchain : w'.chain = (w.chain.setBasket basket
      (b.setStatus w.desk.address .initialized)).hookIn issuer basket w.desk.address)
    (hrecords : w'.desk.records =
      w.desk.records.insert basket ⟨params, params.id, false, [issuer]⟩) :
    Effect basket w w' (.enrol caller params)
  | registered {caller issuer : Address} {r : Record} (hr : w.desk.records.get? basket = some r)
    (hchain : w'.chain = w.chain.hookIn issuer basket w.desk.address)
    (hrecords : w'.desk.records = w.desk.records.insert basket (r.withIssuer issuer)) :
    Effect basket w w' (.registerIssuer caller issuer)
  | entered {caller : Address} {r : Record} {bank : Bank} {c : Chain}
    (hr : w.desk.records.get? basket = some r) (hentered : r.entered = false)
    (hwrote : Chain.Wrote basket (.ofDefault r.params.collateralAsset .zero)
      { w.chain with toBank := bank } c)
    (hchain : Chain.Bookkept w.desk.address basket { r with entered := true } c w'.chain)
    (hrecords : w'.desk.records = w.desk.records.insert basket { r with entered := true }) :
    Effect basket w w' (.enter caller)
  | released {caller : Address} {r : Record} {bank : Bank} {c : Chain}
    (hr : w.desk.records.get? basket = some r)
    (hpaid : (w.chain.pool.account r.market basket).borrowShares = 0)
    (hclosed : Chain.Closed w.desk.address basket r { w.chain with toBank := bank } c)
    (hchain : w'.chain =
      r.issuers.foldl (fun c issuer => c.dropHook issuer basket w.desk.address) c)
    (hrecords : w'.desk.records = w.desk.records.erase basket) : Effect basket w w' (.letGo caller)

/-- **What a request has done** to the chain and the records. -/
inductive Request.Effect (w w' : World) : Request → Prop
  | idle {r : Request} (hchain : w'.chain = w.chain)
    (hrecords : w'.desk.records = w.desk.records) : Effect w w' r
  | chain {q : ChainRequest} (h : q.Effect w.chain w'.chain)
    (hrecords : w'.desk.records = w.desk.records) : Effect w w' (.chain q)
  | desk {basket : Address} {operation : BasketOperation} (h : operation.Effect basket w w') :
    Effect w w' (.desk (.basket basket operation))

end Leverage

/-! ## Signs -/

namespace PositionUnit

variable {size supply : Amount} {u : PositionUnit}

/-- The unit of a holding is not below zero. -/
theorem nonneg_of_ofHolding (h : ofHolding size supply = .ok u) : 0 ≤ u.value.toInt := by
  rw [(ofHolding_eq_ok h).2]
  exact Int.natCast_nonneg _

/-- The unit of a debt is not above zero. -/
theorem nonpos_of_ofDebt (h : ofDebt size supply = .ok u) : u.value.toInt ≤ 0 := by
  rw [(ofDebt_eq_ok h).2]
  exact Int.neg_nonpos_of_nonneg (Int.natCast_nonneg _)

end PositionUnit

/-- Where a market has been booked, the accounts in it are those of the booking. -/
theorem Lending.Bank.account_booked (b : Bank) (params : MarketParams) (m : Lending.Market)
    (market : Lending.MarketId) (who : Address) :
    (b.booked params m).pool.account market who =
      if market = params.id then m.account who else b.pool.account market who := by
  rw [Lending.Pool.account, Lending.Pool.account, Bank.get?_booked]
  by_cases hid : market = params.id
  · rw [if_pos hid, if_pos hid]
  · rw [if_neg hid, if_neg hid]

/-- Interest changes no account. -/
theorem Lending.Bank.account_of_accrue {params : MarketParams} {b b' : Bank}
    (h : (Bank.accrue params).run b = .done () b') (market : Lending.MarketId) (who : Address) :
    b'.pool.account market who = b.pool.account market who := by
  obtain ⟨m, m', hm, haccrued, rfl⟩ := (Bank.accrue_spec params b).done h
  rw [Lending.Bank.account_booked]
  split
  case isTrue hid => rw [haccrued.account, Lending.Pool.account, hid, hm]
  case isFalse => rfl

/-! ## Chains -/

namespace Chain

variable {ε α : Type} {holder basket : Address} {r : Record} {c c' c'' : Chain}

namespace Bookkept

theorem refl (c : Chain) : Bookkept holder basket r c c := Relation.ReflTransGen.refl

theorem withBank (h : Bookkept holder basket r c c') (b : Bank) :
    Bookkept holder basket r c { c' with toBank := b } :=
  Relation.ReflTransGen.tail h (.inl ⟨b, rfl⟩)

theorem wrote (h : Bookkept holder basket r c c') {p : Position} (hp : r.Allows holder p)
    (hwrote : Wrote basket p c' c'') : Bookkept holder basket r c c'' :=
  Relation.ReflTransGen.tail h (.inr ⟨p, hp, hwrote⟩)

/-- **What calls on the bank and allowed positions keep, bookkeeping keeps.** -/
theorem keeps {I : Chain → Prop} (h : Bookkept holder basket r c c') (hc : I c)
    (hbank : ∀ d (b : Bank), I d → I { d with toBank := b })
    (hwrote : ∀ d d' p, r.Allows holder p → Wrote basket p d d' → I d → I d') : I c' := by
  induction h with
  | refl => exact hc
  | tail _ hstep ih =>
    obtain ⟨b, rfl⟩ | ⟨p, hp, hwritten⟩ := hstep
    · exact hbank _ b ih
    · exact hwrote _ _ p hp hwritten ih

/-- Bookkeeping leaves the hooks alone. -/
theorem hooks (h : Bookkept holder basket r c c') : c'.hooks = c.hooks := by
  apply h.keeps (I := fun d => d.hooks = c.hooks) rfl
  · exact fun _ _ hd => hd
  · rintro d d' p - ⟨b, ps, -, -, rfl⟩ hd
    exact hd

/-- A call on the tokens is bookkeeping. -/
theorem leads_onTokens (x : Action TokenBook ε α) :
    (onTokens x).Leads (Bookkept holder basket r c) fun _ _ => True := by
  intro c' hc'
  rw [ends_onTokens]
  exact Outcome.ends_of (fun _ t => hc'.withBank ⟨t, c'.pool⟩) fun _ _ => trivial

theorem leads_theBasket (address : Address) :
    (theBasket address).Leads (Bookkept holder basket r c) fun _ _ => True := by
  intro c' hc'
  rw [ends_theBasket]
  exact ⟨fun _ _ => hc', fun _ => trivial⟩

theorem leads_invokeTransfer (address asset recipient : Address) (amount : Amount) :
    (invokeTransfer address asset recipient amount).Leads (Bookkept holder basket r c)
      fun _ _ => True :=
  .bind (leads_theBasket address) fun _ => leads_onTokens _

theorem leads_invokeApprove (address asset spender : Address) (amount : Amount) :
    (invokeApprove address asset spender amount).Leads (Bookkept holder basket r c)
      fun _ _ => True := by
  refine .bind (leads_theBasket address) fun _ c' hc' => ?_
  rw [Action.ends_modify]
  exact hc'.withBank ⟨c'.tokens.approve asset address spender amount, c'.pool⟩

theorem leads_invokeTrade (address : Address) (call : Exchange.TradeCall) :
    (invokeTrade address call).Leads (Bookkept holder basket r c) fun _ _ => True := by
  refine .bind (.read _) fun known => .bind (.require _ fun _ _ => trivial) fun _ => ?_
  exact .bind (.read _) fun venue => .bind (leads_onTokens _) fun _ => .pure _

end Bookkept

/-- Closing the books is a matter of one basket's positions. -/
theorem Closed.keeps {I : Chain → Prop} (h : Closed holder basket r c c') (hc : I c)
    (hwrote : ∀ d d' p, Wrote basket p d d' → I d → I d') : I c' := by
  cases h with
  | debt _ hdebt => exact hwrote _ _ _ hdebt hc
  | holding _ hdebt hholding => exact hwrote _ _ _ hholding (hwrote _ _ _ hdebt hc)
  | restored _ hdebt hholding _ hrestored =>
    exact hwrote _ _ _ hrestored (hwrote _ _ _ hholding (hwrote _ _ _ hdebt hc))

theorem Closed.hooks (h : Closed holder basket r c c') : c'.hooks = c.hooks := by
  apply h.keeps (I := fun d => d.hooks = c.hooks) rfl
  rintro d d' p ⟨b, ps, -, -, rfl⟩ hd
  exact hd

end Chain

namespace Leverage

/-- **The session has come from `c` by bookkeeping**, and remembers `records`. -/
structure Session.Bookkept (holder basket : Address) (r : Record)
    (records : FiniteMap Address Record) (c : Chain) (s : Session) : Prop where
  chain : Chain.Bookkept holder basket r c s.chain
  records : s.records = records

namespace Operation

variable {ε α : Type} {holder basket : Address} {r : Record} {c : Chain} {d : Desk} {s : Session}
variable {records : FiniteMap Address Record}

/-- The step is bookkeeping. -/
abbrev Bookkeeps (holder basket : Address) (r : Record) (records : FiniteMap Address Record)
    (c : Chain) (x : Operation α) : Prop :=
  x.Leads (Session.Bookkept holder basket r records c) fun _ _ => True

/-! ## Steps -/

/-- To look something up is to change nothing. -/
theorem bookkeeps_of_eq {x : Operation α} (hx : ∀ s, (x.run s).Yields fun _ s' => s' = s) :
    Bookkeeps holder basket r records c x := by
  intro s hs
  refine (hx s).yields ?_
  rintro _ _ rfl
  exact hs

theorem bookkeeps_onChain {refusal : ε → LeverageError} {x : Action Chain ε α}
    (hx : x.Leads (Chain.Bookkept holder basket r c) fun _ _ => True) :
    Bookkeeps holder basket r records c (onChain refusal x) := by
  intro s hs
  rw [onChain, Action.ends_mapError, Action.ends_within]
  exact (hx s.chain hs.chain).yields fun _ _ hc => ⟨hc, hs.records⟩

theorem bookkeeps_compute (x : Except MathError α) :
    Bookkeeps holder basket r records c (compute x) :=
  bookkeeps_of_eq fun s => (compute_yields x s).yields fun _ _ h => h.2

/-- What is computed is what it comes to. -/
theorem bookkept_compute (x : Except MathError α) :
    (compute x).Reaches (Session.Bookkept holder basket r records c) (fun _ _ => True)
      fun a _ => x = .ok a := by
  intro s hs
  refine (compute_yields x s).yields ?_
  rintro a _ ⟨ha, rfl⟩
  exact ⟨hs, ha⟩

theorem bookkeeps_theBasket (address : Address) :
    Bookkeeps holder basket r records c (ledger (Chain.theBasket address)) :=
  bookkeeps_onChain (Chain.Bookkept.leads_theBasket address)

theorem bookkeeps_supplyOf (address : Address) :
    Bookkeeps holder basket r records c (supplyOf address) :=
  bookkeeps_of_eq (supplyOf_yields address)

theorem bookkeeps_balancesOf (q : Record) (address : Address) :
    Bookkeeps holder basket r records c (balancesOf q address) := by
  intro s hs
  rw [ends_balancesOf]
  exact ⟨fun _ _ => hs, fun _ _ => trivial⟩

/-- Whatever is asked of the pool is bookkeeping. -/
theorem bookkeeps_lending (x : Bank.Call α) :
    Bookkeeps holder basket r records c (lending x) := by
  intro s hs
  rw [ends_lending]
  exact Outcome.ends_of (fun _ b => ⟨hs.chain.withBank b, hs.records⟩) fun _ _ => trivial

theorem bookkeeps_emit (payload : EventPayload) :
    Bookkeeps holder basket r records c (emit payload) := fun _ hs => ⟨hs.chain, hs.records⟩

/-- A trade is bookkeeping, whatever becomes of it. -/
theorem bookkeeps_trade (p : TradePlan) (route : Bytes) :
    Bookkeeps holder basket r records c (trade p route) := by
  refine .bind (bookkeeps_onChain (Chain.Bookkept.leads_invokeApprove _ _ _ _)) fun _ => ?_
  refine .bind (.ofExcept fun _ _ _ _ => trivial) fun call => ?_
  refine .bind (bookkeeps_onChain (Chain.Bookkept.leads_invokeTrade _ call)) fun _ => ?_
  refine .bind (.read _) fun balance => ?_
  exact .bind (.require _ fun _ _ => trivial) fun _ => .pure _

theorem bookkeeps_chargeFee (d : Desk) (address asset : Address) (amount : Amount) :
    Bookkeeps holder basket r records c (chargeFee d address asset amount) := by
  refine .bind (.read _) fun rate => .bind (.require _ fun _ _ => trivial) fun _ => ?_
  refine .bind (bookkeeps_compute _) fun fee => .ite (fun _ => .pure _) fun _ => ?_
  refine .bind (.read _) fun recipient => ?_
  exact .bind (bookkeeps_onChain (Chain.Bookkept.leads_invokeTransfer _ _ _ fee)) fun _ => .pure _

theorem bookkeeps_sellCollateral (d : Desk) (q : Record) (p : TradePlan) (route : Bytes) :
    Bookkeeps holder basket r records c (sellCollateral d q p route) := by
  refine .bind (bookkeeps_lending _) fun _ => .bind (bookkeeps_trade p route) fun received => ?_
  refine .bind (bookkeeps_chargeFee d _ _ received) fun fee => ?_
  exact .bind (bookkeeps_compute _) fun net => .pure _

theorem bookkeeps_repayCapped (q : Record) (address : Address) (available : Amount) :
    Bookkeeps holder basket r records c (repayCapped q address available) := by
  refine .bind (bookkeeps_balancesOf q address) fun balances => .ite (fun _ => .pure _) fun _ => ?_
  exact .bind (bookkeeps_lending _) fun moved => .pure _

/-! ## Positions -/

theorem bookkeeps_writeExternal {component : Address} {unit : PositionUnit}
    (h : r.Allows d.address (.ofExternal component d.address unit)) :
    Bookkeeps d.address basket r records c (writeExternal d basket component unit) := by
  intro s hs
  refine (writeExternal_yields d basket component unit s).yields ?_
  rintro _ _ ⟨c', hwrote, rfl⟩
  exact ⟨hs.chain.wrote h hwrote, hs.records⟩

theorem bookkeeps_writeDefault {component : Address} {unit : PositionUnit}
    (h : r.Allows holder (.ofDefault component unit)) :
    Bookkeeps holder basket r records c (writeDefault basket component unit) := by
  intro s hs
  refine (writeDefault_yields basket component unit s).yields ?_
  rintro _ _ ⟨c', hwrote, rfl⟩
  exact ⟨hs.chain.wrote h hwrote, hs.records⟩

theorem bookkeeps_writeDebt (d : Desk) (basket : Address) (r : Record) (borrow supply : Amount) :
    Bookkeeps d.address basket r records c (writeDebt d basket r borrow supply) := by
  refine (bookkept_compute _).bind_leads fun unit hunit => ?_
  have hdebt := PositionUnit.nonpos_of_ofDebt hunit
  exact .bind (bookkeeps_writeExternal (.debt hdebt)) fun _ => .pure _

/-- **Positions are rewritten** as the record allows. -/
theorem bookkeeps_writePositions (d : Desk) (basket : Address) (r : Record) (supply : Amount) :
    Bookkeeps d.address basket r records c (writePositions d basket r supply) := by
  refine .bind (bookkeeps_balancesOf r basket) fun balances => ?_
  have hrest (unit : PositionUnit) : Bookkeeps d.address basket r records c (do
      let borrowUnit ← writeDebt d basket r balances.borrow supply
      pure ⟨supply, unit, borrowUnit, balances.collateral, balances.borrow⟩ :
        Operation SyncReport) :=
    .bind (bookkeeps_writeDebt d basket r balances.borrow supply) fun _ => .pure _
  refine .ite (fun hentered => ?_) fun _ => ?_
  · refine (bookkept_compute _).bind_leads fun unit hunit => ?_
    have hholding := PositionUnit.nonneg_of_ofHolding hunit
    exact .bind (bookkeeps_writeExternal (.collateral hentered hholding)) fun _ =>
      .bind (.pure unit) hrest
  · exact .bind (bookkeeps_theBasket basket) fun b => .bind (.pure _) hrest

theorem bookkeeps_writeResidual (r : Record) (basket : Address) (supply : Amount) :
    Bookkeeps holder basket r records c (writeResidual r basket supply) := by
  refine .bind (.read _) fun residual => (bookkept_compute _).bind_leads fun unit hunit => ?_
  have hholding := PositionUnit.nonneg_of_ofHolding hunit
  exact .bind (bookkeeps_writeDefault (.residual hholding)) fun _ => .pure _

theorem bookkeeps_finishDelever (d : Desk) (r : Record) (p : TradePlan)
    (received fee repaid : Amount) : Bookkeeps d.address p.basket r records c
      (finishDelever d r p received fee repaid) := by
  refine .bind (bookkeeps_writeResidual r p.basket p.supply) fun residual => ?_
  refine .bind (bookkeeps_writePositions d p.basket r p.supply) fun report => ?_
  refine .bind (.read _) fun account => .bind (bookkeeps_emit _) fun _ => ?_
  exact .ite (fun _ => .bind (bookkeeps_emit _) fun _ => .pure _) fun _ => .pure _

theorem bookkeeps_syncPositions (d : Desk) (basket : Address) (r : Record) :
    Bookkeeps d.address basket r records c (syncPositions d basket r) := by
  refine .bind (bookkeeps_supplyOf basket) fun supply => .ite (fun _ => .pure _) fun _ => ?_
  refine .bind (bookkeeps_lending _) fun _ => ?_
  refine .bind (bookkeeps_writePositions d basket r supply) fun report => ?_
  exact .bind (bookkeeps_emit _) fun _ => .pure _

theorem bookkeeps_syncDebtForSupply (d : Desk) (basket : Address) (r : Record) (supply : Amount) :
    Bookkeeps d.address basket r records c (syncDebtForSupply d basket r supply) := by
  refine .ite (fun _ => .pure _) fun _ => .bind (bookkeeps_lending _) fun _ => ?_
  refine .bind (bookkeeps_balancesOf r basket) fun balances => ?_
  refine .bind (bookkeeps_writeDebt d basket r balances.borrow supply) fun unit => ?_
  refine .bind (bookkeeps_theBasket basket) fun b => ?_
  exact .bind (bookkeeps_compute _) fun notional => bookkeeps_emit _

/-- Component hooks end alike. -/
theorem bookkeeps_hookEnd (d : Desk) (basket : Address) (r : Record)
    (adjust : Amount → Except MathError Amount) (payload : EventPayload) (value : Amount) :
    Bookkeeps d.address basket r records c (do
      if d.settings.syncOnHook then do
        let supply ← supplyOf basket
        let adjusted ← compute (adjust supply)
        syncDebtForSupply d basket r adjusted
      else pure ()
      emit payload
      pure value) := by
  have hsay : Bookkeeps d.address basket r records c (do emit payload; pure value) :=
    .bind (bookkeeps_emit payload) fun _ => .pure _
  refine .ite (fun _ => .bind (bookkeeps_supplyOf basket) fun supply => ?_) fun _ => hsay
  refine .bind (bookkeeps_compute _) fun adjusted => ?_
  exact .bind (bookkeeps_syncDebtForSupply d basket r adjusted) fun _ => hsay

/-! ## Operations that keep the record -/

/-- With the record found, the rest of an operation is bookkeeping for it. -/
theorem bookkept_of_found {x : Operation α}
    (hx : Bookkeeps holder basket r s.records s.chain x)
    (hr : s.records.get? basket = some r) : (x.run s).Yields fun _ s' =>
      ∃ r, s.records.get? basket = some r ∧
        Session.Bookkept holder basket r s.records s.chain s' :=
  (hx s ⟨.refl _, rfl⟩).yields fun _ _ hs' => ⟨r, hr, hs'⟩

/-- A plan is for the basket that it is made for. -/
theorem bookkept_plan (d : Desk) (address send receive : Address) (quantity minimum : Amount)
    (adapterName : String) : (plan d address send receive quantity minimum adapterName).Reaches
      (Session.Bookkept holder basket r records c) (fun _ _ => True)
      fun p _ => p.basket = address := by
  intro s hs
  refine (plan_yields d address send receive quantity minimum adapterName s).yields ?_
  rintro p _ ⟨rfl, hp, -⟩
  exact ⟨hs, hp⟩

theorem bookkept_planPerToken (d : Desk) (address send receive : Address) (units least : Amount)
    (adapterName : String) : (planPerToken d address send receive units least adapterName).Reaches
      (Session.Bookkept holder basket r records c) (fun _ _ => True)
      fun p _ => p.basket = address := by
  intro s hs
  refine (planPerToken_yields d address send receive units least adapterName s).yields ?_
  rintro p _ ⟨rfl, hp⟩
  exact ⟨hs, hp⟩

theorem lever_bookkept (caller basket : Address) (borrowUnits minReceiveUnits : Amount)
    (adapterName : String) (route : Bytes) (d : Desk) (s : Session) :
    ((lever caller basket borrowUnits minReceiveUnits adapterName route d).run s).Yields
      fun _ s' => ∃ r, s.records.get? basket = some r ∧
        Session.Bookkept d.address basket r s.records s.chain s' := by
  rw [lever]
  refine Action.yields_bind (enteredRecord_yields d caller basket s) ?_
  rintro r s ⟨rfl, hr⟩
  refine bookkept_of_found (.bind (bookkeeps_lending _) fun _ => ?_) hr
  refine (bookkept_planPerToken d basket _ _ _ _ _).bind_leads fun p _ => ?_
  refine .bind (bookkeeps_lending _) fun borrowed => .bind (bookkeeps_trade p route) ?_
  intro received
  refine .bind (bookkeeps_chargeFee d basket _ received) fun fee => ?_
  refine .bind (bookkeeps_compute _) fun net => ?_
  have hend : Bookkeeps d.address basket r s.records s.chain _ :=
    .bind (bookkeeps_writePositions d basket r p.supply) fun report =>
      .bind (bookkeeps_emit (.leverageIncreased ⟨basket, r.params.loanAsset,
        r.params.collateralAsset, p.adapterName, borrowed.assets, received, fee⟩)) fun _ =>
      .pure (⟨borrowed.assets, received, fee, net, report.collateralUnit,
        report.borrowUnit⟩ : LeverReport)
  exact .ite (fun _ => hend) fun _ => .bind (bookkeeps_lending _) fun _ => hend

theorem delever_bookkept (caller basket : Address) (redeemUnits minRepayUnits : Amount)
    (adapterName : String) (route : Bytes) (d : Desk) (s : Session) :
    ((delever caller basket redeemUnits minRepayUnits adapterName route d).run s).Yields
      fun _ s' => ∃ r, s.records.get? basket = some r ∧
        Session.Bookkept d.address basket r s.records s.chain s' := by
  rw [delever]
  refine Action.yields_bind (enteredRecord_yields d caller basket s) ?_
  rintro r _ ⟨rfl, hr⟩
  refine bookkept_of_found (.bind (bookkeeps_lending _) fun _ => ?_) hr
  refine (bookkept_planPerToken d basket _ _ _ _ _).bind_leads ?_
  rintro p rfl
  refine .bind (bookkeeps_sellCollateral d r p route) fun sold => ?_
  refine .bind (bookkeeps_repayCapped r p.basket sold.2.2) fun repaid => ?_
  exact bookkeeps_finishDelever d r p sold.1 sold.2.1 repaid

theorem deleverToZero_bookkept (caller basket : Address) (redeemUnits : Amount)
    (adapterName : String) (route : Bytes) (d : Desk) (s : Session) :
    ((deleverToZero caller basket redeemUnits adapterName route d).run s).Yields
      fun _ s' => ∃ r, s.records.get? basket = some r ∧
        Session.Bookkept d.address basket r s.records s.chain s' := by
  rw [deleverToZero]
  refine Action.yields_bind (enteredRecord_yields d caller basket s) ?_
  rintro r _ ⟨rfl, hr⟩
  refine bookkept_of_found (.bind (bookkeeps_lending _) fun _ => ?_) hr
  refine .bind (bookkeeps_balancesOf r basket) fun balances => ?_
  refine .bind (.require _ fun _ _ => trivial) fun _ => ?_
  refine .bind (bookkeeps_supplyOf basket) fun supply => .bind (bookkeeps_compute _) ?_
  intro quantity
  refine (bookkept_plan d basket _ _ quantity balances.borrow _).bind_leads ?_
  rintro p rfl
  refine .bind (bookkeeps_sellCollateral d r p route) fun sold => ?_
  refine .bind (.require _ fun _ _ => trivial) fun _ => .bind (bookkeeps_lending _) fun moved => ?_
  exact bookkeeps_finishDelever d r p sold.1 sold.2.1 moved.assets

theorem sync_bookkept (d : Desk) (basket : Address) (s : Session) :
    ((do
      let r ← recordOf d basket
      syncPositions d basket r : Operation (Option SyncReport)).run s).Yields
      fun _ s' => ∃ r, s.records.get? basket = some r ∧
        Session.Bookkept d.address basket r s.records s.chain s' := by
  refine Action.yields_bind (recordOf_yields d basket s) ?_
  rintro r _ ⟨rfl, hr⟩
  exact bookkept_of_found (bookkeeps_syncPositions d basket r) hr

theorem moduleHook_bookkept (caller basket : Address) (d : Desk) (s : Session) :
    ((moduleHook caller basket d).run s).Yields fun _ s' => ∃ r, s.records.get? basket = some r ∧
      Session.Bookkept d.address basket r s.records s.chain s' := by
  refine Action.yields_bind (requireIssuer_yields caller basket s) ?_
  rintro _ _ rfl
  exact sync_bookkept d basket _

theorem issueHook_bookkept (caller basket : Address) (quantity : Amount) (component : Address)
    (isEquity : Bool) (d : Desk) (s : Session) :
    ((issueHook caller basket quantity component isEquity d).run s).Yields
      fun _ s' => ∃ r, s.records.get? basket = some r ∧
        Session.Bookkept d.address basket r s.records s.chain s' := by
  refine Action.yields_bind (requireIssuer_yields caller basket s) ?_
  rintro _ _ rfl
  refine Action.yields_bind (recordOf_yields d basket _) ?_
  rintro r s ⟨rfl, hr⟩
  refine bookkept_of_found (.ite (fun _ => .pure _) fun _ => ?_) hr
  refine .bind (bookkeeps_of_eq fun s => (debtUnit_yields d r basket component s).yields
    fun _ _ h => h.1) fun unit => .bind (bookkeeps_compute _) fun notional => ?_
  have hend : Bookkeeps d.address basket r s.records s.chain _ := bookkeeps_hookEnd d basket r
    (Amount.add · quantity) (.issueHookBorrowed ⟨basket, component, quantity, notional⟩) notional
  refine .ite (fun _ => hend) fun _ => ?_
  exact .bind (bookkeeps_lending _) fun _ => hend

theorem redeemHook_bookkept (caller basket : Address) (quantity : Amount) (component : Address)
    (isEquity : Bool) (d : Desk) (s : Session) :
    ((redeemHook caller basket quantity component isEquity d).run s).Yields
      fun _ s' => ∃ r, s.records.get? basket = some r ∧
        Session.Bookkept d.address basket r s.records s.chain s' := by
  refine Action.yields_bind (requireIssuer_yields caller basket s) ?_
  rintro _ _ rfl
  refine Action.yields_bind (recordOf_yields d basket _) ?_
  rintro r _ ⟨rfl, hr⟩
  refine bookkept_of_found (.ite (fun _ => .pure _) fun _ => ?_) hr
  refine .bind (bookkeeps_of_eq fun s => (debtUnit_yields d r basket component s).yields
    fun _ _ h => h.1) fun unit => .bind (bookkeeps_compute _) fun owed => ?_
  refine .bind (bookkeeps_repayCapped r basket owed) fun repaid => ?_
  exact bookkeeps_hookEnd d basket r (Amount.sub · quantity)
    (.redeemHookRepaid ⟨basket, component, quantity, repaid⟩) repaid

/-! ## Operations that change the record -/

/-- **To enrol** a basket gives it a record, confirms the desk as one of its modules, and hooks the
desk in with the usual orchestrator. -/
theorem enrol_books (caller basket : Address) (params : MarketParams) (d : Desk) (s : Session) :
    ((enrol caller basket params d).run s).Yields fun _ s' => ∃ b issuer,
      s.records.get? basket = none ∧ s.chain.baskets.get? basket = some b ∧
        params.collateralAsset ≠ params.loanAsset ∧
        s'.chain = (s.chain.setBasket basket (b.setStatus d.address .initialized)).hookIn issuer
          basket d.address ∧
        s'.records = s.records.insert basket ⟨params, params.id, false, [issuer]⟩ := by
  simp only [enrol, requireManager, requireStatus, Chain.confirmModule, Chain.registerHook, keep,
    emit, Outcome.Yields, bind_assoc, Action.ends_bind, Action.ends_read, Action.ends_require,
    Action.ends_orRefuse, Action.ends_modify, ends_ledger, Chain.ends_theBasket, ends_lending,
    Bank.ends_market, implies_true, and_true]
  intro _ b hb _ _ hfree _ hdistinct issuer _ _ m _ b' hb' _ _
  obtain rfl : b = b' := Option.some.inj (hb.symm.trans hb')
  refine ⟨b, issuer, ?_, hb, hdistinct, rfl, rfl⟩
  exact Option.not_isSome_iff_eq_none.1 (Bool.eq_false_iff.1 hfree)

/-- **To register** with another orchestrator is to hook the desk in with it. -/
theorem registerIssuer_books (caller basket issuer : Address) (d : Desk) (s : Session) :
    ((registerIssuer caller basket issuer d).run s).Yields fun _ s' => ∃ r,
      s.records.get? basket = some r ∧ s'.chain = s.chain.hookIn issuer basket d.address ∧
        s'.records = s.records.insert basket (r.withIssuer issuer) := by
  rw [registerIssuer]
  refine Action.yields_bind (requireManager_yields caller basket s) ?_
  rintro _ _ rfl
  refine Action.yields_bind (recordOf_yields d basket _) ?_
  rintro r s ⟨rfl, hr⟩
  simp only [requireStatus, Chain.registerHook, keep, emit, Outcome.Yields, bind_assoc,
    Action.ends_bind, Action.ends_read, Action.ends_require, Action.ends_modify, ends_ledger,
    implies_true, and_true]
  exact fun _ _ => ⟨r, hr, rfl, rfl⟩

/-- **Entering** takes the basket's own unit of the collateral off the ledger, and writes positions
as the entered record allows. -/
theorem enter_books (caller basket : Address) (d : Desk) (s : Session) :
    ((enter caller basket d).run s).Yields fun _ s' => ∃ r bank c,
      s.records.get? basket = some r ∧ r.entered = false ∧
        Chain.Wrote basket (.ofDefault r.params.collateralAsset .zero)
          { s.chain with toBank := bank } c ∧
        Chain.Bookkept d.address basket { r with entered := true } c s'.chain ∧
        s'.records = s.records.insert basket { r with entered := true } := by
  rw [enter]
  refine Action.yields_bind (requireManager_yields caller basket s) ?_
  rintro _ _ rfl
  refine Action.yields_bind (recordOf_yields d basket _) ?_
  rintro r s ⟨rfl, hr⟩
  simp only [Outcome.Yields, Action.ends_bind, Action.ends_require, ends_ledger,
    Chain.ends_theBasket, ends_compute, ends_lending, keep, Action.ends_modify, emit,
    Action.run_pure, Outcome.ends_done, implies_true, and_true]
  intro hentered b _ _ notional _ _
  refine (Outcome.yields_self _).yields fun _ bank _ => ?_
  refine (writeDefault_yields basket _ _ _).yields ?_
  rintro _ _ ⟨c, hwrote, rfl⟩
  refine (bookkeeps_writePositions d basket { r with entered := true } b.supply
    ⟨c, _, s.events⟩ ⟨.refl c, rfl⟩).yields fun report s' hs' => ?_
  exact ⟨r, bank, c, hr, hentered, hwrote, hs'.chain, hs'.records⟩

/-- To restore collateral is to take the desk's unit of it off the ledger, and perhaps to write the
basket's own. -/
theorem restoreCollateral_wrote (d : Desk) (r : Record) (basket : Address) (s : Session) :
    ((restoreCollateral d r basket).run s).Yields fun _ s' => s'.records = s.records ∧
      ∃ c, Chain.Wrote basket (.ofExternal r.params.collateralAsset d.address .zero) s.chain c ∧
        (s'.chain = c ∨ ∃ unit : PositionUnit, 0 ≤ unit.value.toInt ∧
          Chain.Wrote basket (.ofDefault r.params.collateralAsset unit) c s'.chain) := by
  rw [restoreCollateral]
  refine Action.yields_bind (writeExternal_yields d basket _ _ s) ?_
  rintro _ _ ⟨c, hwrote, rfl⟩
  refine Action.yields_bind (supplyOf_yields basket _) ?_
  rintro supply _ rfl
  simp only [Outcome.Yields, Action.ends_ite, Action.run_pure, Outcome.ends_done]
  refine ⟨fun _ => ⟨trivial, c, hwrote, .inl rfl⟩, fun _ => ?_⟩
  simp only [walletOf, Action.ends_bind, Action.ends_read, ends_compute, implies_true, and_true]
  intro unit hunit
  refine (writeDefault_yields basket _ unit _).yields ?_
  rintro _ _ ⟨c', hwrote', rfl⟩
  exact ⟨rfl, c, hwrote, .inr ⟨unit, PositionUnit.nonneg_of_ofHolding hunit, hwrote'⟩⟩

/-- **A release** closes the books of the basket, takes the desk's hooks off, and forgets it. -/
theorem release_books (d : Desk) (r : Record) (basket : Address) (withdrawn : Amount)
    (s : Session) : ((release d r basket withdrawn).run s).Yields fun _ s' => ∃ c,
      Chain.Closed d.address basket r s.chain c ∧
        s'.chain = r.issuers.foldl (fun c issuer => c.dropHook issuer basket d.address) c ∧
        s'.records = s.records.erase basket := by
  rw [release]
  refine Action.yields_bind (writeExternal_yields d basket _ _ s) ?_
  rintro _ _ ⟨c, hdebt, rfl⟩
  split
  case isTrue hentered =>
    refine Action.yields_bind (restoreCollateral_wrote d r basket _) ?_
    rintro _ s' ⟨hrecords, c', hholding, hsame | ⟨unit, hunit, hrestored⟩⟩
    · have hclosed : Chain.Closed d.address basket r s.chain s'.chain :=
        .holding hentered hdebt (hsame ▸ hholding)
      exact ⟨s'.chain, hclosed, rfl, congrArg (·.erase basket) hrecords⟩
    · have hclosed : Chain.Closed d.address basket r s.chain s'.chain :=
        .restored hentered hdebt hholding hunit hrestored
      exact ⟨s'.chain, hclosed, rfl, congrArg (·.erase basket) hrecords⟩
  case isFalse hentered =>
    exact ⟨c, .debt (Bool.eq_false_iff.2 hentered) hdebt, rfl, rfl⟩

/-- **To let the desk go** is to owe nothing, and to have the books closed. -/
theorem letGo_books (caller basket : Address) (d : Desk) (s : Session) :
    ((letGo caller basket d).run s).Yields fun _ s' => ∃ r bank c,
      s.records.get? basket = some r ∧
        (s.chain.pool.account r.market basket).borrowShares = 0 ∧
        Chain.Closed d.address basket r { s.chain with toBank := bank } c ∧
        s'.chain = r.issuers.foldl (fun c issuer => c.dropHook issuer basket d.address) c ∧
        s'.records = s.records.erase basket := by
  rw [letGo_eq]
  simp only [Outcome.Yields, Action.ends_bind (x := .require _ _), Action.ends_require,
    Action.ends_bind (x := .read _), Action.ends_read, Action.ends_bind (x := .orRefuse _ _),
    Action.ends_orRefuse, implies_true, and_true]
  intro _ r hr
  refine Action.yields_bind (lending_yields _ s) ?_
  rintro _ _ ⟨b, haccrue, rfl⟩
  simp only [Outcome.Yields, Action.ends_bind (x := .read _), Action.ends_read,
    Action.ends_bind (x := .require _ _), Action.ends_require, implies_true, and_true]
  intro hpaid
  have hpaid : (s.chain.pool.account r.market basket).borrowShares = 0 := by
    rw [← Bank.account_of_accrue haccrue]
    exact hpaid
  split
  case isTrue =>
    refine (release_books d r basket _ _).yields ?_
    rintro _ s' ⟨c, hclosed, hchain, hrecords⟩
    exact ⟨r, b, c, hr, hpaid, hclosed, hchain, hrecords⟩
  case isFalse =>
    refine Action.yields_bind (lending_yields _ _) ?_
    rintro _ _ ⟨b', -, rfl⟩
    refine (release_books d r basket _ _).yields ?_
    rintro _ s' ⟨c, hclosed, hchain, hrecords⟩
    exact ⟨r, b', c, hr, hpaid, hclosed, hchain, hrecords⟩

end Operation

/-! ## Operations, all of them -/

section Effects

variable {w w' : World} {basket : Address} {operation : BasketOperation}

/-- What keeps the books of a basket has kept them once it has gone through. -/
theorem World.operate_kept_books {α : Type} {op : Desk → Operation α} {a : α}
    (hadjusts : operation.adjusts = true)
    (h : ((op w.desk).run ⟨w.chain, w.desk.records, []⟩).Yields fun _ s' => ∃ r,
      w.desk.records.get? basket = some r ∧
        Session.Bookkept w.desk.address basket r w.desk.records w.chain s')
    (hrun : (World.operate op).run w = .done a w') : operation.Effect basket w w' := by
  obtain ⟨s, log, hdone, rfl⟩ := World.operate_yields hrun
  obtain ⟨r, hr, hs⟩ := h.done hdone
  exact .kept hadjusts hr hs.chain hs.records

/-- **Every operation that goes through has one of these effects.** -/
theorem BasketOperation.effect (h : (operation.perform basket).run w = .done () w') :
    operation.Effect basket w w' := by
  cases operation with
  | setAllowed caller allowed =>
    obtain ⟨hchain, hrecords⟩ := (World.setAllowed_aside caller basket allowed w).done h
    exact .listed hchain hrecords
  | enrol caller params =>
    obtain ⟨s, log, hdone, rfl⟩ := World.operate_yields h
    obtain ⟨b, issuer, hnew, hb, hdistinct, hchain, hrecords⟩ :=
      (Operation.enrol_books caller basket params w.desk _).done hdone
    exact .enrolled hnew hb hdistinct hchain hrecords
  | registerIssuer caller issuer =>
    obtain ⟨s, log, hdone, rfl⟩ := World.operate_yields h
    obtain ⟨r, hr, hchain, hrecords⟩ :=
      (Operation.registerIssuer_books caller basket issuer w.desk _).done hdone
    exact .registered hr hchain hrecords
  | letGo caller =>
    obtain ⟨_, s, log, hdone, rfl⟩ := World.forget_operate_yields h
    obtain ⟨r, bank, c, hr, hpaid, hclosed, hchain, hrecords⟩ :=
      (Operation.letGo_books caller basket w.desk _).done hdone
    exact .released hr hpaid hclosed hchain hrecords
  | enter caller =>
    obtain ⟨_, s, log, hdone, rfl⟩ := World.forget_operate_yields h
    obtain ⟨r, bank, c, hr, hentered, hwrote, hchain, hrecords⟩ :=
      (Operation.enter_books caller basket w.desk _).done hdone
    exact .entered hr hentered hwrote hchain hrecords
  | lever caller borrowUnits minReceiveUnits adapterName route =>
    obtain ⟨_, h⟩ := Action.run_forget_eq_done.1 h
    exact World.operate_kept_books rfl (Operation.lever_bookkept _ _ _ _ _ _ _ _) h
  | delever caller redeemUnits minRepayUnits adapterName route =>
    obtain ⟨_, h⟩ := Action.run_forget_eq_done.1 h
    exact World.operate_kept_books rfl (Operation.delever_bookkept _ _ _ _ _ _ _ _) h
  | deleverToZero caller redeemUnits adapterName route =>
    obtain ⟨_, h⟩ := Action.run_forget_eq_done.1 h
    exact World.operate_kept_books rfl (Operation.deleverToZero_bookkept _ _ _ _ _ _ _) h
  | sync =>
    obtain ⟨_, h⟩ := Action.run_forget_eq_done.1 h
    exact World.operate_kept_books rfl (Operation.sync_bookkept _ _ _) h
  | moduleHook caller =>
    obtain ⟨_, h⟩ := Action.run_forget_eq_done.1 h
    exact World.operate_kept_books rfl (Operation.moduleHook_bookkept _ _ _ _) h
  | issueHook caller quantity component isEquity =>
    obtain ⟨_, h⟩ := Action.run_forget_eq_done.1 h
    exact World.operate_kept_books rfl (Operation.issueHook_bookkept _ _ _ _ _ _ _) h
  | redeemHook caller quantity component isEquity =>
    obtain ⟨_, h⟩ := Action.run_forget_eq_done.1 h
    exact World.operate_kept_books rfl (Operation.redeemHook_bookkept _ _ _ _ _ _ _) h

variable {r : Request}

/-- **Every request has one of these effects.** A refused operation has none. -/
theorem Request.effect (hw : w.Orderly Set.univ) (h : r.after w = some w') : r.Effect w w' := by
  cases r with
  | chain q =>
    obtain ⟨c, hc, rfl⟩ := Option.map_eq_some_iff.1 h
    exact .chain (ChainRequest.effect hc) rfl
  | desk q =>
    by_cases hq : ∃ basket operation, q = .basket basket operation
    · obtain ⟨basket, operation, rfl⟩ := hq
      have hends : ((operation.perform basket).run w).Ends
          (fun _ v => Request.Effect w v (.desk (.basket basket operation)))
          fun _ v => Request.Effect w v (.desk (.basket basket operation)) := by
        refine Outcome.ends_iff.2 ⟨fun _ v hrun => .desk (BasketOperation.effect hrun), ?_⟩
        intro e v hrun
        obtain ⟨rfl, -⟩ := (operation.perform_spec hw basket fun _ _ => trivial).refused hrun
        exact .idle rfl rfl
      exact hends.state h
    · obtain ⟨hchain, hrecords⟩ :=
        DeskRequest.after_aside (fun basket operation h => hq ⟨basket, operation, h⟩) h
      exact .idle hchain hrecords

/-- A desk stays the module that it is. -/
theorem DeskRequest.after_address (hw : w.Orderly Set.univ) {q : DeskRequest}
    (h : q.perform.after w = some w') : w'.desk.address = w.desk.address := by
  have hends : (q.perform.run w).Ends (fun _ v => v.desk.address = w.desk.address)
      fun _ v => v.desk.address = w.desk.address := by
    cases q with
    | setTime time => exact rfl
    | advanceTime delay => simp [perform, World.advanceTime, World.setTime]
    | setAnyAllowed caller anyAllowed =>
      simp only [perform, World.setAnyAllowed, World.changeAllowList, Action.ends_bind,
        Action.ends_read, Action.ends_require, Action.ends_orAbort, Action.ends_modify,
        implies_true, and_true]
      intro _ allowList _ desk hdesk
      obtain ⟨log, rfl⟩ := publish?_eq_some hdesk
      exact rfl
    | basket basket operation =>
      refine (operation.perform_spec hw basket fun _ _ => trivial).imp ?_ ?_
      · exact fun _ v hdone => hdone.holder
      · rintro _ v ⟨rfl, -⟩
        exact rfl
  exact hends.state h

theorem Request.after_address (hw : w.Orderly Set.univ) (h : r.after w = some w') :
    w'.desk.address = w.desk.address := by
  cases r with
  | chain q =>
    obtain ⟨c, -, rfl⟩ := Option.map_eq_some_iff.1 h
    exact rfl
  | desk q => exact DeskRequest.after_address hw h

end Effects

end Leverage

end LeveredBasket
