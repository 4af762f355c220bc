/-
What levering leaves of the loan asset.

A basket tracks an asset if its own unit of it is what there is in the wallet, for
each token and rounded down (`Chain.Tracks`). Delevering ends with writing that unit
(`LeverageModule::write_loan_residual`), so it tracks the loan asset whatever the
adapter has done (`World.Reachable.tracks_after_delever`). Levering
(`LeverageModule::lever`) writes no such unit. What becomes of the wallet is told by
the order that the venue was given: what was borrowed has come in, and what that
order sends has gone out (`Chain.LoanSwapped`). So the basket tracks what it tracked
before just if the difference is lost in rounding, as it is where the adapter writes
out the order that it was asked for. One that passes on an order for less leaves a
rest that nothing records.
-/
import LeveredBasket.Proofs.Leverage.Backing

set_option autoImplicit false

namespace LeveredBasket

open Exchange (Adapter SwapOrder)
open Lending (Bank Market)

/-- **The basket tracks an asset**: of its own it has the unit of what there is in the wallet. -/
def Chain.Tracks (basket asset : Address) (c : Chain) : Prop :=
  ∃ b ∈ c.baskets.get? basket, (b.defaultUnit asset).value.toInt =
    ((c.tokens.balance asset basket).toNat * Amount.one.toNat / b.supply.toNat : Nat)

instance (basket asset : Address) (c : Chain) : Decidable (c.Tracks basket asset) :=
  inferInstanceAs (Decidable (∃ b ∈ c.baskets.get? basket, _ = _))

/-- **A loan has been swapped** on an order, for what the venue quotes. Of its asset the basket has
what it had and what it has borrowed, less what the order sends of it. A basket that is itself the
market, the router or the recipient of the order stands on both sides. -/
structure Chain.LoanSwapped (basket loan : Address) (borrowed : Amount) (o : SwapOrder)
    (out : Amount) (c c' : Chain) : Prop where
  quoted : c.venue.quote o.sendAsset o.receiveAsset o.sendQuantity = .ok out
  wallet : (c'.tokens.balance loan basket).toNat +
      countIf (basket = c.pool.address) borrowed.toNat +
      countIf (loan = o.sendAsset) o.sendQuantity.toNat =
    (c.tokens.balance loan basket).toNat + borrowed.toNat +
      countIf (loan = o.sendAsset ∧ basket = c.venue.router) o.sendQuantity.toNat +
      countIf (loan = o.receiveAsset ∧ basket = o.recipient) out.toNat

/-- Of a basket whose units are known. -/
theorem Chain.Owns.tracks_iff {basket asset : Address} {supply : Amount}
    {own : Address → PositionUnit} {c : Chain} (h : c.Owns basket supply own) :
    c.Tracks basket asset ↔ (own asset).value.toInt =
      ((c.tokens.balance asset basket).toNat * Amount.one.toNat / supply.toNat : Nat) := by
  obtain ⟨b, hb, rfl, hunits⟩ := h.units
  rw [← hunits]
  constructor
  · rintro ⟨b', hb', htracks⟩
    obtain rfl : b = b' := Option.some.inj (hb.symm.trans hb')
    exact htracks
  · exact fun htracks => ⟨b, hb, htracks⟩

namespace Leverage

/-! ## Up (`LeverageModule::lever`) -/

section Levered

variable {d : Desk} {basket : Address} {units minimum : Amount} {adapterName : String}
variable {route : Bytes} {r : Record} {m : Market} {adapter : Adapter} {b : Basket}
variable {report : LeverReport} {bank : Bank} {c c₁ c' : Chain} {t : TokenBook}

/-- **Levering swaps a loan**, on the order that the adapter has made. -/
theorem Levered.swapped (hdistinct : r.params.collateralAsset ≠ r.params.loanAsset)
    (h : Levered d basket units adapterName r m adapter b
      ⟨r.params.loanAsset, r.params.collateralAsset, basket, report.borrowed, minimum, route⟩
      report bank c c₁ t c') :
    ∃ call o out, adapter.call ⟨r.params.loanAsset, r.params.collateralAsset, basket,
        report.borrowed, minimum, route⟩ = .ok call ∧
      SwapOrder.ofPayload? call.payload = some o ∧
      Chain.LoanSwapped basket r.params.loanAsset report.borrowed o out c c' := by
  obtain ⟨m₁, m₂, t₁, -, -, -, hgiven, rfl, hpaid, -⟩ := h.banked
  obtain ⟨call, o, out, t₂, hcall, -, ho, hquote, hswapped, rfl⟩ :=
    h.traded.brokered.exchanged.swapped
  refine ⟨call, o, out, hcall, ho, hquote, ?_⟩
  have hborrowed := hgiven.balance r.params.loanAsset basket
  have hswap := hswapped.balance r.params.loanAsset basket
  rw [TokenBook.balance_approve] at hswap
  -- fee and deposit are of the collateral
  have hkept : c'.tokens.balance r.params.loanAsset basket =
      t₂.balance r.params.loanAsset basket :=
    (hpaid.balance_of_ne hdistinct.symm basket).trans
      (h.traded.brokered.charged.balance_of_ne hdistinct.symm basket)
  simp only [true_and, and_true, countIf_pos] at hborrowed hswap
  rw [hkept]
  omega

/-- An adapter that writes out the order leaves nothing of what is borrowed. -/
theorem Levered.wallet_of_written {target spender : Address}
    (hdistinct : r.params.collateralAsset ≠ r.params.loanAsset)
    (h : Levered d basket units adapterName r m (.writesOrder target spender) b
      ⟨r.params.loanAsset, r.params.collateralAsset, basket, report.borrowed, minimum, route⟩
      report bank c c₁ t c')
    (hpool : basket ≠ c.pool.address) (hrouter : basket ≠ c.venue.router) :
    c'.tokens.balance r.params.loanAsset basket = c.tokens.balance r.params.loanAsset basket := by
  obtain ⟨call, o, out, hcall, ho, -, hwallet⟩ := h.swapped hdistinct
  obtain rfl := Option.some.inj ((Adapter.call_writesOrder hcall).2.2.symm.trans ho)
  simp only [hpool, hrouter, hdistinct.symm, and_false, false_and, countIf_pos, countIf_neg,
    not_false_eq_true] at hwallet
  exact Word.ext (by omega)

end Levered

/-- **What levering leaves untracked.** In a world that can come about let a basket track its loan
asset, and let it be levered through whichever adapter. Then its loan has been swapped on the order
that the adapter has made. It tracks the asset still just if that has made no difference to the unit
that the wallet is worth, as it has not if the adapter writes out the order that it is given and the
basket is neither the market nor the router. -/
theorem World.Reachable.tracks_after_lever_iff {w w' : World} (hw : w.Reachable)
    {caller basket : Address} {units least : Amount} {adapterName : String} {route : Bytes}
    {report : LeverReport} {r : Record} (hr : w.desk.records.get? basket = some r)
    (htracks : w.chain.Tracks basket r.params.loanAsset)
    (h : (World.lever caller basket units least adapterName route).run w = .done report w') :
    ∃ b adapter minimum call o out, w.chain.baskets.get? basket = some b ∧
      w.chain.registry.adapter w.desk.address adapterName = .ok adapter ∧
      adapter.call ⟨r.params.loanAsset, r.params.collateralAsset, basket, report.borrowed, minimum,
        route⟩ = .ok call ∧
      SwapOrder.ofPayload? call.payload = some o ∧
      Chain.LoanSwapped basket r.params.loanAsset report.borrowed o out w.chain w'.chain ∧
      (w'.chain.Tracks basket r.params.loanAsset ↔
        (w'.chain.tokens.balance r.params.loanAsset basket).toNat * Amount.one.toNat /
            b.supply.toNat =
          (w.chain.tokens.balance r.params.loanAsset basket).toNat * Amount.one.toNat /
            b.supply.toNat) ∧
      (basket ≠ w.chain.pool.address → basket ≠ w.chain.venue.router →
        ∀ target spender, adapter = .writesOrder target spender →
          w'.chain.Tracks basket r.params.loanAsset) := by
  obtain ⟨s, log, hdone, rfl⟩ := World.operate_yields h
  obtain ⟨r', m, adapter, b, minimum, bank, c, t, hr', -, hlevered⟩ :=
    (Operation.lever_course w.desk caller basket units least adapterName route _).done hdone
  obtain rfl := Option.some.inj (hr.symm.trans hr')
  have hdistinct := (hw.orderly.records basket r hr).distinct
  have howns := hlevered.traded.owns hw.orderly.tidy
  have hunit := howns.tracks_iff.1 htracks
  -- supply and unit stay as they are, so what matters is the wallet
  have hiff : s.chain.Tracks basket r.params.loanAsset ↔
      (s.chain.tokens.balance r.params.loanAsset basket).toNat * Amount.one.toNat /
          b.supply.toNat =
        (w.chain.tokens.balance r.params.loanAsset basket).toNat * Amount.one.toNat /
          b.supply.toNat := by
    rw [(hlevered.owns _ _ howns).tracks_iff, hunit]
    exact Int.ofNat_inj.trans eq_comm
  obtain ⟨call, o, out, hcall, ho, hswapped⟩ := hlevered.swapped hdistinct
  refine ⟨b, adapter, minimum, call, o, out, hlevered.traded.found, hlevered.traded.registered,
    hcall, ho, hswapped, hiff, ?_⟩
  rintro hpool hrouter target spender rfl
  refine hiff.2 ?_
  rw [hlevered.wallet_of_written hdistinct hpool hrouter]

open Deployment in
/-- So there is a rest that nothing records: of three units that are borrowed two are swapped. -/
theorem untracked : ∃ w r report w', World.runs relaying (start .usual) = some w ∧
    w.desk.records.get? Deployment.basket = some r ∧
    w.chain.Tracks Deployment.basket r.params.loanAsset ∧
    (World.lever manager Deployment.basket (number 3) 0 "Relay"
      (SwapOrder.payload ⟨usdc, wsteth, Deployment.basket, number 2, 0, []⟩)).run w =
        .done report w' ∧
    ¬w'.chain.Tracks Deployment.basket r.params.loanAsset := by
  have hlevers : ((World.runs relaying (start .usual)).bind fun w =>
      (w.desk.records.get? Deployment.basket).map fun r =>
        decide (w.chain.Tracks Deployment.basket r.params.loanAsset) &&
        ((World.lever manager Deployment.basket (number 3) 0 "Relay"
          (SwapOrder.payload ⟨usdc, wsteth, Deployment.basket, number 2, 0, []⟩)).run
          w).isDoneWith fun _ w' =>
            decide (¬w'.chain.Tracks Deployment.basket r.params.loanAsset)) = some true := by
    decide +kernel
  obtain ⟨w, hw, hlevers⟩ := Option.bind_eq_some_iff.1 hlevers
  obtain ⟨r, hr, hlevers⟩ := Option.map_eq_some_iff.1 hlevers
  simp only [Bool.and_eq_true, decide_eq_true_eq] at hlevers
  obtain ⟨htracks, hdone⟩ := hlevers
  obtain ⟨report, w', hlever, hrest⟩ := Outcome.exists_of_isDoneWith hdone
  exact ⟨w, r, report, w', hw, hr, htracks, hlever, of_decide_eq_true hrest⟩

open Deployment in
/-- What levering leaves of the loan asset, for that order. -/
theorem World.tracks_after_lever_iff_of_relaying : ∃ w r report w' b adapter minimum call o out,
    World.runs relaying (start .usual) = some w ∧
    w.desk.records.get? Deployment.basket = some r ∧
    w.chain.Tracks Deployment.basket r.params.loanAsset ∧
    (World.lever manager Deployment.basket (number 3) 0 "Relay"
      (SwapOrder.payload ⟨usdc, wsteth, Deployment.basket, number 2, 0, []⟩)).run w =
        .done report w' ∧
    ¬w'.chain.Tracks Deployment.basket r.params.loanAsset ∧
    w.chain.baskets.get? Deployment.basket = some b ∧
    w.chain.registry.adapter w.desk.address "Relay" = .ok adapter ∧
    adapter.call ⟨r.params.loanAsset, r.params.collateralAsset, Deployment.basket, report.borrowed,
      minimum, SwapOrder.payload ⟨usdc, wsteth, Deployment.basket, number 2, 0, []⟩⟩ = .ok call ∧
    SwapOrder.ofPayload? call.payload = some o ∧
    Chain.LoanSwapped Deployment.basket r.params.loanAsset report.borrowed o out w.chain w'.chain ∧
    (w'.chain.Tracks Deployment.basket r.params.loanAsset ↔
      (w'.chain.tokens.balance r.params.loanAsset Deployment.basket).toNat * Amount.one.toNat /
          b.supply.toNat =
        (w.chain.tokens.balance r.params.loanAsset Deployment.basket).toNat * Amount.one.toNat /
          b.supply.toNat) := by
  obtain ⟨w, r, report, w', hw, hr, htracks, hlever, hrest⟩ := untracked
  have hreachable : w.Reachable := ⟨pool, router, feeRecipient, holder, owner, .usual, _, hw⟩
  obtain ⟨b, adapter, minimum, call, o, out, hb, hadapter, hcall, ho, hswapped, hiff, -⟩ :=
    World.Reachable.tracks_after_lever_iff hreachable hr htracks hlever
  exact ⟨w, r, report, w', b, adapter, minimum, call, o, out, hw, hr, htracks, hlever, hrest, hb,
    hadapter, hcall, ho, hswapped, hiff⟩

/-- Levering may leave of the loan asset what nothing tracks. -/
theorem World.untracked_after_lever : ¬∀ (w w' : World), w.Reachable →
    ∀ caller basket units least adapterName route report r,
      w.desk.records.get? basket = some r → w.chain.Tracks basket r.params.loanAsset →
      (World.lever caller basket units least adapterName route).run w = .done report w' →
      w'.chain.Tracks basket r.params.loanAsset := by
  intro hall
  obtain ⟨w, r, report, w', hw, hr, htracks, hlever, hrest⟩ := untracked
  exact hrest (hall w w' ⟨_, _, _, _, _, _, _, hw⟩ _ _ _ _ _ _ _ r hr htracks hlever)

/-! ## Down -/

/-- What a delevering ends with is that the loan asset is tracked. -/
theorem Finished.tracks {basket loan : Address} {supply : Amount} {own : Address → PositionUnit}
    {c c' : Chain} (h : Finished basket loan supply c c') (howns : c.Owns basket supply own) :
    c'.Tracks basket loan := by
  obtain ⟨b, hb, rfl, hunit⟩ := h.unit howns
  exact ⟨b, hb, hunit⟩

/-- **Delevering leaves nothing untracked**, whichever the adapter: in a world that can come about a
basket tracks the loan asset once it is delevered, whether it did before or not. -/
theorem World.Reachable.tracks_after_delever {w w' : World} (hw : w.Reachable)
    {caller basket : Address} {units : Amount} {adapterName : String} {route : Bytes}
    {report : DeleverReport}
    (h : (World.deleverToZero caller basket units adapterName route).run w = .done report w' ∨
      ∃ least, (World.delever caller basket units least adapterName route).run w =
        .done report w') :
    ∃ r, w.desk.records.get? basket = some r ∧ w'.chain.Tracks basket r.params.loanAsset := by
  have htidy := hw.orderly.tidy
  obtain h | ⟨least, h⟩ := h
  · obtain ⟨s, log, hdone, rfl⟩ := World.operate_yields h
    obtain ⟨r, m, bal, adapter, b, net, bank, c, t, moved, bank', hr, -, hsale, -, -, -,
      hfinished⟩ :=
      (Operation.deleverToZero_course w.desk caller basket units adapterName route _).done hdone
    exact ⟨r, hr, hfinished.tracks ((hsale.traded.owns htidy).of_baskets rfl)⟩
  · obtain ⟨s, log, hdone, rfl⟩ := World.operate_yields h
    obtain ⟨r, m, adapter, b, minimum, net, bank, c, t, s₁, hr, -, hsale, hrepay, hfinished⟩ :=
      (Operation.delever_course w.desk caller basket units least adapterName route _).done hdone
    obtain ⟨debt, m₁, t₁, -, -, -, -, -, rfl⟩ :=
      hsale.repays (hw.orderly.records basket r hr).market hrepay
    exact ⟨r, hr, hfinished.tracks ((hsale.traded.owns htidy).of_baskets rfl)⟩

end Leverage

end LeveredBasket
