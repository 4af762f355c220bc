/-
What stands behind a basket's own units after it has traded.

To lever and to delever is to be given something by the pool, to trade it
(`LeverageModule::execute_trade`), and to pay out of what has arrived. So nothing
in the wallet is less afterwards, whatever the adapter has made of the order, and
what was promised on the strength of the wallet still is there
(`World.Reachable.backed_of_trade`). The one unit of its own that a basket writes
on the way is for what the wallet then has, rounded down.

An allowance is left where the venue has been asked to pull less than the basket
allowed. How much is told exactly (`World.Reachable.allowance_left`): nothing if
the adapter writes the order out, but not so where it passes one on
(`World.allowance_left_of_asking_less`).
-/
import LeveredBasket.Proofs.Leverage.Course

set_option autoImplicit false

namespace LeveredBasket

open Exchange (Adapter SwapOrder)
open Lending (Bank Market MarketParams)

/-! ## Wallets and units -/

/-- The unit promises no more than there is in a wallet. -/
def PositionUnit.BackedBy (u : PositionUnit) (supply wallet : Amount) : Prop :=
  u.value.toInt * supply.toNat ≤ (wallet.toNat * Amount.one.toNat : Nat)

instance (u : PositionUnit) (supply wallet : Amount) : Decidable (u.BackedBy supply wallet) :=
  inferInstanceAs (Decidable (_ ≤ _))

/-- **Everything that a basket has of its own is there**, in its wallet. -/
def Chain.Backed (basket : Address) (c : Chain) : Prop :=
  ∀ b, c.baskets.get? basket = some b →
    ∀ x, (b.defaultUnit x).BackedBy b.supply (c.tokens.balance x basket)

/-! ## Trades of a basket -/

/-- **What is offered in trade**: so many units of an asset for each basket token, through the
adapter that the module has under this name. -/
structure Leverage.Offer where
  asset : MarketParams → Address
  units : Amount
  adapterName : String
  route : Bytes

/-- What an operation offers in trade, if it is one that trades. -/
def Leverage.BasketOperation.offer? : Leverage.BasketOperation → Option Leverage.Offer
  | .lever _ units _ adapterName route => some ⟨(·.loanAsset), units, adapterName, route⟩
  | .delever _ units _ adapterName route | .deleverToZero _ units adapterName route =>
    some ⟨(·.collateralAsset), units, adapterName, route⟩
  | _ => none

/-- **A basket has traded**, with all that goes before it and after it. What has not been asked for
of what was allowed is still allowed, and nothing else. Nothing in the wallet is less, and each of
the basket's own units is as it was or backed by the wallet. -/
structure Chain.Traded (basket send : Address) (adapter : Adapter) (quantity : Amount)
    (route : Bytes) (c c' : Chain) : Prop where
  covered : (adapter.asks quantity route).toNat ≤ quantity.toNat
  allowance : c'.tokens.AllowsOnly basket send adapter.spender
    (quantity.truncatedSub (adapter.asks quantity route))
  wallet : basket ≠ c.pool.address →
    ∀ a, (c.tokens.balance a basket).toNat ≤ (c'.tokens.balance a basket).toNat
  units : ∃ b b', c.baskets.get? basket = some b ∧ c'.baskets.get? basket = some b' ∧
    b'.supply = b.supply ∧ ∀ x, b'.defaultUnit x = b.defaultUnit x ∨
      (b'.defaultUnit x).BackedBy b'.supply (c'.tokens.balance x basket)

/-- **A basket has traded what was offered**, through the adapter that the module has. -/
def Chain.Took (holder basket : Address) (params : MarketParams) (o : Leverage.Offer)
    (c c' : Chain) : Prop :=
  ∃ adapter b quantity, c.registry.adapter holder o.adapterName = .ok adapter ∧
    c.baskets.get? basket = some b ∧ Amount.preciseMul o.units b.supply = .ok quantity ∧
    Chain.Traded basket (o.asset params) adapter quantity o.route c c'

/-! ## Units that are backed -/

/-- The unit of a holding is backed by it. -/
theorem PositionUnit.backedBy_of_ofHolding {wallet supply : Amount} {u : PositionUnit}
    (h : PositionUnit.ofHolding wallet supply = .ok u) : u.BackedBy supply wallet := by
  obtain ⟨-, hunit⟩ := PositionUnit.ofHolding_eq_ok h
  rw [BackedBy, hunit]
  exact_mod_cast Nat.div_mul_le_self _ _

/-- A unit is backed by more if it is backed by less. -/
theorem PositionUnit.BackedBy.mono {wallet wallet' supply : Amount} {u : PositionUnit}
    (h : u.BackedBy supply wallet) (hle : wallet.toNat ≤ wallet'.toNat) :
    u.BackedBy supply wallet' :=
  h.trans (Int.ofNat_le.2 (Nat.mul_le_mul_right _ hle))

/-- Where every position of its own is backed, everything is that the basket has of its own. -/
theorem Chain.backed_of_positions {basket : Address} {c : Chain} {b : Basket}
    (hb : c.baskets.get? basket = some b)
    (h : ∀ p ∈ b.positions, p.kind = .default →
      p.unit.BackedBy b.supply (c.tokens.balance p.component basket)) : c.Backed basket := by
  intro b' hb' x
  obtain rfl : b = b' := Option.some.inj (hb.symm.trans hb')
  unfold Basket.defaultUnit Positions.unit
  cases hfind : b.positions.find? (·.samePlace (.ofDefault x .zero)) with
  | none =>
    have hzero : PositionUnit.zero.value.toInt = 0 := rfl
    change PositionUnit.zero.value.toInt * _ ≤ _
    rw [hzero, Int.zero_mul]
    exact Int.natCast_nonneg _
  | some p =>
    have hplace : p.place = (x, .default, none) :=
      Position.samePlace_iff.1 (by simpa using List.find?_some hfind)
    have hbacked := h p (List.mem_of_find?_eq_some hfind) (congrArg (·.2.1) hplace)
    rw [show p.component = x from congrArg Prod.fst hplace] at hbacked
    exact hbacked

/-- **What was backed before a trade is backed after it.** -/
theorem Chain.Traded.backed {basket send : Address} {adapter : Adapter} {quantity : Amount}
    {route : Bytes} {c c' : Chain} (h : Chain.Traded basket send adapter quantity route c c')
    (hne : basket ≠ c.pool.address) (hc : c.Backed basket) : c'.Backed basket := by
  obtain ⟨b, b₁, hb, hb₁, hsupply, hunits⟩ := h.units
  intro b' hb' x
  obtain rfl : b₁ = b' := Option.some.inj (hb₁.symm.trans hb')
  obtain hsame | hbacked := hunits x
  · rw [hsame, hsupply]
    exact (hc b hb x).mono (h.wallet hne x)
  · exact hbacked

/-- **A trade from its parts**: what is to be sent is given, then it is traded, and then no more is
paid than has arrived. -/
theorem Chain.Traded.of_parts {basket send receive : Address} {adapter : Adapter}
    {quantity net paid supply : Amount} {route : Bytes} {c c' : Chain} {t₁ t₂ : TokenBook}
    {own own' : Address → PositionUnit}
    (hgiven : TokenBook.Transferred send c.pool.address basket quantity c.tokens t₁)
    (htraded : TokenBook.Traded basket send receive adapter.spender quantity
      (adapter.asks quantity route) net t₁ t₂)
    (hpaid : TokenBook.Paid basket receive paid t₂ c'.tokens) (hle : paid.toNat ≤ net.toNat)
    (hc : c.Owns basket supply own) (hc' : c'.Owns basket supply own')
    (hown : ∀ x, own' x = own x ∨ (own' x).BackedBy supply (c'.tokens.balance x basket)) :
    Chain.Traded basket send adapter quantity route c c' := by
  obtain ⟨b, hb, hsupply, hunits⟩ := hc.units
  obtain ⟨b', hb', hsupply', hunits'⟩ := hc'.units
  refine ⟨htraded.covered, hpaid.allowsOnly htraded.allowance,
    htraded.le_balance hgiven hpaid hle, b, b', hb, hb', hsupply'.trans hsupply.symm, fun x => ?_⟩
  rw [hunits, hunits', hsupply']
  exact hown x

namespace Leverage

/-! ## Operations that trade -/

section Took

variable {d : Desk} {basket : Address} {units net : Amount} {adapterName : String} {r : Record}
variable {m : Market} {adapter : Adapter} {b : Basket} {o : SwapOrder} {bank : Bank}
variable {c c₁ c₂ c' : Chain} {t : TokenBook} (htidy : c.Tidy)
  (hdistinct : r.params.collateralAsset ≠ r.params.loanAsset)
  (hnone : c.tokens.AllowsNothing basket)

include htidy hdistinct hnone

/-- **Levering** trades what it borrows, and pays into the market what has arrived. -/
theorem Levered.took {report : LeverReport}
    (hsend : o.sendAsset = r.params.loanAsset)
    (hreceive : o.receiveAsset = r.params.collateralAsset)
    (hsent : o.sendQuantity = report.borrowed)
    (h : Levered d basket units adapterName r m adapter b o report bank c c₁ t c') :
    Chain.Took d.address basket r.params ⟨(·.loanAsset), units, adapterName, o.route⟩ c c' := by
  obtain ⟨m₁, m₂, t₁, -, -, -, hgiven, rfl, hpaid, -⟩ := h.banked
  rw [← hsend, ← hsent] at hgiven
  have hne : o.receiveAsset ≠ o.sendAsset := by
    rw [hreceive, hsend]
    exact hdistinct
  have htraded := h.traded.brokered.traded (hgiven.balance_of_ne hne basket).symm hne.symm
    (hnone.transferred hgiven)
  have howns := h.traded.owns htidy
  refine ⟨adapter, b, o.sendQuantity, h.traded.registered, h.traded.found, h.traded.quantity, ?_⟩
  change Chain.Traded basket r.params.loanAsset adapter o.sendQuantity o.route c c'
  rw [← hsend]
  exact .of_parts hgiven htraded (hreceive ▸ hpaid.paid) (Nat.le_refl _) howns (h.owns _ _ howns)
    fun _ => .inl rfl

/-- **Delevering** trades what it withdraws, and repays no more than has arrived. -/
theorem Sale.took {received fee repaid : Amount}
    (hsend : o.sendAsset = r.params.collateralAsset)
    (hreceive : o.receiveAsset = r.params.loanAsset)
    (h : Sale d basket units adapterName r m adapter b o received fee net bank c c₁ t)
    (hfinished : Finished basket r.params.loanAsset b.supply c₂ c')
    (hbaskets : c₂.baskets = c.baskets)
    (hpaid : TokenBook.Paid basket r.params.loanAsset repaid t c₂.tokens)
    (hle : repaid.toNat ≤ net.toNat) :
    Chain.Took d.address basket r.params ⟨(·.collateralAsset), units, adapterName, o.route⟩ c
      c' := by
  obtain ⟨m', t₁, -, -, -, -, hgiven, rfl⟩ := h.withdrew
  rw [← hsend] at hgiven
  have hne : o.sendAsset ≠ o.receiveAsset := by
    rw [hreceive, hsend]
    exact hdistinct
  have htraded := h.traded.brokered.traded (hgiven.balance_of_ne hne.symm basket).symm hne
    (hnone.transferred hgiven)
  have howns := h.traded.owns htidy
  obtain ⟨unit, hunit, howns'⟩ := hfinished.owns _ (howns.of_baskets hbaskets)
  have htokens : c'.tokens = c₂.tokens := congrArg Bank.tokens hfinished.bank
  rw [← htokens] at hpaid hunit
  refine ⟨adapter, b, o.sendQuantity, h.traded.registered, h.traded.found, h.traded.quantity, ?_⟩
  change Chain.Traded basket r.params.collateralAsset adapter o.sendQuantity o.route c c'
  rw [← hsend]
  refine .of_parts hgiven htraded (hreceive ▸ hpaid) hle howns howns' fun x => ?_
  by_cases hx : x = r.params.loanAsset
  · right
    rw [if_pos hx, hx]
    exact PositionUnit.backedBy_of_ofHolding hunit
  · left
    exact if_neg hx

end Took

/-- **An operation that trades** does so for what is offered. -/
theorem BasketOperation.took {known : Set MarketParams} {w w' : World} (hw : w.Orderly known)
    {basket : Address} (hnone : w.chain.tokens.AllowsNothing basket) {operation : BasketOperation}
    {o : Offer} (ho : operation.offer? = some o)
    (h : (operation.perform basket).run w = .done () w') :
    ∃ r, w.desk.records.get? basket = some r ∧
      Chain.Took w.desk.address basket r.params o w.chain w'.chain := by
  cases operation with
  | lever caller units least adapterName route =>
    obtain rfl := Option.some.inj ho
    obtain ⟨report, s, log, hdone, rfl⟩ := World.forget_operate_yields h
    obtain ⟨r, m, adapter, b, minimum, bank, c₁, t, hr, -, hlevered⟩ :=
      (Operation.lever_course w.desk caller basket units least adapterName route _).done hdone
    exact ⟨r, hr, hlevered.took hw.tidy (hw.records basket r hr).distinct hnone rfl rfl rfl⟩
  | delever caller units least adapterName route =>
    obtain rfl := Option.some.inj ho
    obtain ⟨report, s, log, hdone, rfl⟩ := World.forget_operate_yields h
    obtain ⟨r, m, adapter, b, minimum, net, bank, c₁, t, s₁, hr, -, hsale, hrepay, hfinished⟩ :=
      (Operation.delever_course w.desk caller basket units least adapterName route _).done hdone
    have hsound := hw.records basket r hr
    obtain ⟨debt, m₁, t₁, -, hmin, -, -, htransferred, rfl⟩ := hsale.repays hsound.market hrepay
    exact ⟨r, hr, hsale.took hw.tidy hsound.distinct hnone rfl rfl hfinished rfl htransferred.paid
      (hmin.trans_le (Nat.min_le_right _ _))⟩
  | deleverToZero caller units adapterName route =>
    obtain rfl := Option.some.inj ho
    obtain ⟨report, s, log, hdone, rfl⟩ := World.forget_operate_yields h
    obtain ⟨r, m, bal, adapter, b, net, bank, c₁, t, moved, bank', hr, hbal, hsale, hcovered, -,
      hrepay, hfinished⟩ :=
      (Operation.deleverToZero_course w.desk caller basket units adapterName route _).done hdone
    have hsound := hw.records basket r hr
    obtain ⟨hdebt, hshares⟩ := Record.balances_market hsound.market Bank.get?_booked_self hbal
    rw [hshares] at hrepay
    -- the debt that had to be covered is the one that is repaid
    obtain ⟨hassets, htransferred⟩ := hsale.repaysAll hdebt hrepay
    have hle : moved.assets.toNat ≤ net.toNat := by
      rw [hassets]
      exact hcovered
    exact ⟨r, hr, hsale.took hw.tidy hsound.distinct hnone rfl rfl hfinished rfl htransferred.paid
      hle⟩
  | setAllowed | enrol | registerIssuer | letGo | enter | sync | moduleHook | issueHook
  | redeemHook => cases ho

/-! ## Every trade -/

/-- **A trade takes no more than it was given.** In a world that can come about let a basket, other
than the pool, allow nobody anything, and let everything be there that it has of its own. Whenever
it is levered or delevered, through whichever adapter, there is no less of any asset in its wallet
afterwards, and everything is still there that it has of its own. -/
theorem World.Reachable.backed_of_trade {w w' : World} (hw : w.Reachable) {basket : Address}
    (hne : basket ≠ w.chain.pool.address) (hnone : w.chain.tokens.AllowsNothing basket)
    (hbacked : w.chain.Backed basket) {operation : BasketOperation} {o : Offer}
    (ho : operation.offer? = some o) (h : (operation.perform basket).run w = .done () w') :
    (∀ asset, w.chain.tokens.balance asset basket ≤ w'.chain.tokens.balance asset basket) ∧
      w'.chain.Backed basket := by
  obtain ⟨r, -, adapter, b, quantity, -, -, -, htraded⟩ :=
    BasketOperation.took hw.orderly hnone ho h
  exact ⟨htraded.wallet hne, htraded.backed hne hbacked⟩

open Deployment in
/-- The requests after which the basket of the reference deployment has three of the smallest units
of the loan asset to its own, and the desk has an adapter that passes on what it is told. -/
def relaying : List Request :=
  entering ++ ([.token (.mint usdc Deployment.basket (number 3)),
    .basket Deployment.basket (.editDefault usdc ⟨⟨3, by decide, by decide⟩⟩),
    .registry (.setAdapter holder "Relay" (.passesRoute router router))] :
      List ChainRequest).map .chain

open Deployment in
/-- The basket is levered by three units of the loan asset, and the exchange is told to swap two. -/
def askingLess : BasketOperation :=
  .lever manager (number 3) 0 "Relay"
    (SwapOrder.payload ⟨usdc, wsteth, Deployment.basket, number 2, 0, []⟩)

open Deployment in
/-- So there is one that is still allowed to be moved. -/
theorem relayed : ∃ w w', World.runs relaying (start .usual) = some w ∧
    Deployment.basket ≠ w.chain.pool.address ∧
    w.chain.tokens.AllowsNothing Deployment.basket ∧ w.chain.Backed Deployment.basket ∧
    (askingLess.perform Deployment.basket).run w = .done () w' ∧
    w'.chain.tokens.allowance usdc Deployment.basket router = 1 := by
  have hlevers : ((World.runs relaying (start .usual)).bind fun w =>
      (w.chain.baskets.get? Deployment.basket).map fun b =>
        decide (Deployment.basket ≠ w.chain.pool.address) &&
          (w.chain.tokens.tokens.entries.all fun t =>
            t.2.allowances.entries.all fun a => decide (a.1.1 ≠ Deployment.basket)) &&
          (b.positions.all fun p => decide (p.kind = .default →
            p.unit.BackedBy b.supply (w.chain.tokens.balance p.component Deployment.basket))) &&
          ((askingLess.perform Deployment.basket).run w).isDoneWith fun _ w' =>
            decide (w'.chain.tokens.allowance usdc Deployment.basket router = 1)) = some true := by
    decide +kernel
  obtain ⟨w, hw, hlevers⟩ := Option.bind_eq_some_iff.1 hlevers
  obtain ⟨b, hb, hlevers⟩ := Option.map_eq_some_iff.1 hlevers
  simp only [Bool.and_eq_true, decide_eq_true_eq, List.all_eq_true] at hlevers
  obtain ⟨⟨⟨hne, hnone⟩, hbacked⟩, hdone⟩ := hlevers
  obtain ⟨_, w', hlever, hleft⟩ := Outcome.exists_of_isDoneWith hdone
  exact ⟨w, w', hw, hne, TokenBook.allowsNothing_of_entries hnone,
    Chain.backed_of_positions hb hbacked, hlever, of_decide_eq_true hleft⟩

open Deployment in
/-- So it is for that basket and that adapter. -/
theorem World.backed_of_relaying : ∃ w w', World.runs relaying (start .usual) = some w ∧
    Deployment.basket ≠ w.chain.pool.address ∧
    w.chain.tokens.AllowsNothing Deployment.basket ∧ w.chain.Backed Deployment.basket ∧
    (askingLess.perform Deployment.basket).run w = .done () w' ∧
    (∀ asset, w.chain.tokens.balance asset Deployment.basket ≤
      w'.chain.tokens.balance asset Deployment.basket) ∧
    w'.chain.Backed Deployment.basket := by
  obtain ⟨w, w', hw, hne, hnone, hbacked, hlever, -⟩ := relayed
  have hreachable : w.Reachable := ⟨pool, router, feeRecipient, holder, owner, .usual, _, hw⟩
  exact ⟨w, w', hw, hne, hnone, hbacked, hlever,
    World.Reachable.backed_of_trade hreachable hne hnone hbacked rfl hlever⟩

/-! ## What is left of an allowance -/

/-- **What has not been asked for is still allowed.** In a world that can come about let a basket
allow nobody anything. After it is levered or delevered, it allows the adapter's spender what it
sends less what the venue was asked to pull, which is no more than that, and allows nobody anything
else. So nothing is left just if the venue was asked for all of it. -/
theorem World.Reachable.allowance_left {w w' : World} (hw : w.Reachable) {basket : Address}
    (hnone : w.chain.tokens.AllowsNothing basket) {operation : BasketOperation} {o : Offer}
    (ho : operation.offer? = some o) (h : (operation.perform basket).run w = .done () w') :
    ∃ r b adapter quantity, w.desk.records.get? basket = some r ∧
      w.chain.baskets.get? basket = some b ∧
      w.chain.registry.adapter w.desk.address o.adapterName = .ok adapter ∧
      Amount.preciseMul o.units b.supply = .ok quantity ∧
      adapter.asks quantity o.route ≤ quantity ∧
      w'.chain.tokens.AllowsOnly basket (o.asset r.params) adapter.spender
        (quantity.truncatedSub (adapter.asks quantity o.route)) ∧
      (w'.chain.tokens.AllowsNothing basket ↔ adapter.asks quantity o.route = quantity) := by
  obtain ⟨r, hr, adapter, b, quantity, hadapter, hb, hquantity, htraded⟩ :=
    BasketOperation.took hw.orderly hnone ho h
  refine ⟨r, b, adapter, quantity, hr, hb, hadapter, hquantity, htraded.covered,
    htraded.allowance, ?_⟩
  rw [htraded.allowance.allowsNothing_iff, Lending.Bank.truncatedSub_eq_zero]
  have hcovered := htraded.covered
  constructor
  · intro hall
    exact Word.ext (Nat.le_antisymm hcovered hall)
  · intro hall
    exact Nat.le_of_eq (congrArg Word.toNat hall.symm)

open Deployment in
/-- So it is where the adapter asks for less. -/
theorem World.allowance_left_of_relaying : ∃ w w' r b adapter quantity,
    World.runs relaying (start .usual) = some w ∧
    w.chain.tokens.AllowsNothing Deployment.basket ∧
    (askingLess.perform Deployment.basket).run w = .done () w' ∧
    w.desk.records.get? Deployment.basket = some r ∧
    w.chain.baskets.get? Deployment.basket = some b ∧
    w.chain.registry.adapter w.desk.address "Relay" = .ok adapter ∧
    Amount.preciseMul (number 3) b.supply = .ok quantity ∧
    w'.chain.tokens.AllowsOnly Deployment.basket r.params.loanAsset adapter.spender
      (quantity.truncatedSub (adapter.asks quantity
        (SwapOrder.payload ⟨usdc, wsteth, Deployment.basket, number 2, 0, []⟩))) := by
  obtain ⟨w, w', hw, -, hnone, -, hlever, -⟩ := relayed
  have hreachable : w.Reachable := ⟨pool, router, feeRecipient, holder, owner, .usual, _, hw⟩
  obtain ⟨r, b, adapter, quantity, hr, hb, hadapter, hquantity, -, hleft, -⟩ :=
    World.Reachable.allowance_left hreachable hnone rfl hlever
  exact ⟨w, w', r, b, adapter, quantity, hw, hnone, hlever, hr, hb, hadapter, hquantity, hleft⟩

/-- An allowance may outlive the trade that it was given for. -/
theorem World.allowance_outlives_trade : ¬∀ w w' : World, w.Reachable →
    ∀ basket operation o, w.chain.tokens.AllowsNothing basket →
      BasketOperation.offer? operation = some o →
      (operation.perform basket).run w = .done () w' → w'.chain.tokens.AllowsNothing basket := by
  intro hnothing
  obtain ⟨w, w', hw, -, hnone, -, hlever, hleft⟩ := relayed
  have hzero := hnothing w w' ⟨_, _, _, _, _, _, _, hw⟩ _ _ _ hnone rfl hlever Deployment.usdc
    Deployment.router
  rw [hleft] at hzero
  exact absurd hzero (by decide)

end Leverage

end LeveredBasket
