/-
What a redemption takes out of a basket.

The hook of a redemption (`LeverageModule::component_redeem_hook`) repays what the
redeemed tokens owe at the debt unit of the ledger, rounded up, and no more than
the whole debt. Where that covers the debt, exactly the shares of the debt are
repaid, at what they cost then.

Whether it covers the debt is decided by the debt that the market has in its
books, but the repayment accrues first. In a market that is up to date this makes
no difference. In one with interest to come, tokens that owe as much as the books
say pay the interest of all (`World.Reachable.redemption_capped`): the hook then
takes more than they owe (`World.redemption_exceeds_of_lapsing`).
-/
import LeveredBasket.Proofs.Lending.Bystanders
import LeveredBasket.Proofs.Leverage.Steps

set_option autoImplicit false

namespace LeveredBasket

namespace Leverage

open Lending (Bank Market)

namespace Operation

/-! ## Ends of component hooks (`LeverageModule::sync_debt_for_supply`) -/

/-- **`c'` is `c` at the end of a component hook**: if the settings ask for it, the debt unit has
been brought up to date for the supply to come, unless that is none. -/
def HookEnded (d : Desk) (basket : Address) (r : Record)
    (adjust : Amount → Except MathError Amount) (c c' : Chain) : Prop :=
  if d.settings.syncOnHook then
    ∃ b supply, c.baskets.get? basket = some b ∧ adjust b.supply = .ok supply ∧
      (supply = 0 ∧ c' = c ∨ ∃ m bal unit, DebtSynced d basket r supply m bal unit c c')
  else c' = c

theorem hookEnd_yields (d : Desk) (basket : Address) (r : Record)
    (adjust : Amount → Except MathError Amount) (payload : EventPayload) (value : Amount)
    (s : Session) :
    ((do
      if d.settings.syncOnHook then do
        let supply ← supplyOf basket
        let adjusted ← compute (adjust supply)
        syncDebtForSupply d basket r adjusted
      else pure ()
      emit payload
      pure value : Operation Amount).run s).Yields fun a s' =>
        a = value ∧ HookEnded d basket r adjust s.chain s'.chain := by
  unfold HookEnded
  cases d.settings.syncOnHook with
  | true =>
    simp only [if_true, Action.ends_bind, ends_supplyOf, ends_compute, implies_true, and_true]
    intro b hb supply hsupply
    refine (syncDebtForSupply_yields d basket r supply s).yields ?_
    rintro _ s' ⟨-, hsynced⟩
    exact ⟨rfl, b, supply, hb, hsupply, hsynced⟩
  | false => exact ⟨rfl, rfl⟩

variable {d : Desk} {basket : Address} {r : Record} {adjust : Amount → Except MathError Amount}
variable {c c' : Chain}

/-- The end of a hook moves no tokens. -/
theorem HookEnded.tokens (h : HookEnded d basket r adjust c c') : c'.tokens = c.tokens := by
  unfold HookEnded at h
  split at h
  · obtain ⟨b, supply, -, -, ⟨-, rfl⟩ | ⟨m, bal, unit, hsynced⟩⟩ := h
    · rfl
    · obtain ⟨b', ps, -, -, hc'⟩ := hsynced.wrote
      rw [hc']
      rfl
  · rw [h]

/-! ## Redeeming (`LeverageModule::component_redeem_hook`) -/

/-- **A redemption** repays, capped, what the tokens owe at the unit on the ledger. -/
theorem redeemHook_yields (caller basket : Address) (quantity : Amount) (component : Address)
    (d : Desk) (s : Session) : ((redeemHook caller basket quantity component false d).run s).Yields
      fun repaid s' => ∃ r b owed s₁, s.records.get? basket = some r ∧
        component = r.params.loanAsset ∧ s.chain.baskets.get? basket = some b ∧
        (b.externalUnit r.params.loanAsset d.address).value.toInt < 0 ∧
        (b.externalUnit r.params.loanAsset d.address).notionalSizeUp quantity = .ok owed ∧
        (repayCapped r basket owed).run s = .done repaid s₁ ∧
        HookEnded d basket r (Amount.sub · quantity) s₁.chain s'.chain := by
  rw [redeemHook]
  refine Action.yields_bind (requireIssuer_yields caller basket s) ?_
  rintro _ _ rfl
  refine Action.yields_bind (recordOf_yields d basket _) ?_
  rintro r _ ⟨rfl, hr⟩
  rw [if_neg (by simp)]
  refine Action.yields_bind (debtUnit_yields d r basket component _) ?_
  rintro unit _ ⟨rfl, hcomponent, b, hb, rfl, hnegative⟩
  refine Action.yields_bind (compute_yields _ _) ?_
  rintro owed _ ⟨howed, rfl⟩
  refine Action.yields_bind (Outcome.yields_self _) ?_
  intro repaid s₁ hrepaid
  refine (hookEnd_yields d basket r (Amount.sub · quantity) _ repaid s₁).yields ?_
  rintro _ s' ⟨rfl, hended⟩
  exact ⟨r, b, owed, s₁, hr, hcomponent, hb, hnegative, howed, hrepaid, hended⟩

/-- **A capped repayment takes no more than it may**, unless interest is to come and the debt in the
books is covered: then it takes all of the debt, with the interest. -/
theorem repayCapped_le {available repaid : Amount} {s s' : Session} {m : Market} {d : Amount}
    (hmarket : r.market = r.params.id) (hm : s.chain.pool.markets.get? r.params.id = some m)
    (hd : m.debtOf basket = .ok d)
    (h : (repayCapped r basket available).run s = .done repaid s') :
    repaid.toNat ≤ available.toNat ∨ ¬s.chain.pool.now ≤ m.totals.lastUpdate ∧
      d.toNat ≤ available.toNat ∧ repaid.toNat = m.owedAt s.chain.pool.now basket := by
  obtain ⟨bal, hbal, ⟨-, rfl, -⟩ | ⟨-, moved, b, hrepay, rfl, -⟩⟩ :=
    (repayCapped_yields r basket available s).done h
  · exact .inl (Nat.zero_le _)
  · obtain ⟨hborrow, hshares⟩ := Record.balances_market hmarket hm hbal
    obtain rfl : d = bal.borrow := Except.ok.inj (hd.symm.trans hborrow)
    obtain ⟨m₀, m₁, m', t, hm₀, haccrued, hrepaid, -⟩ :=
      (Bank.repay_ends r.params basket _ s.chain.toBank).done hrepay
    obtain rfl : m = m₀ := Option.some.inj (hm.symm.trans hm₀)
    have hprice := hrepaid.price
    unfold repayAmount at hprice
    split at hprice
    case isFalse =>
      rw [(Lending.Bank.movementOf_assets hprice).1]
      exact .inl (Nat.le_refl _)
    case isTrue hcovered =>
      have hcovered : bal.borrow.toNat ≤ available.toNat := hcovered
      -- all shares are repaid, at what they cost once interest is accrued
      have hdebt : m₁.debtOf basket = .ok moved.assets := by
        rw [Market.debtOf, haccrued.account, ← hshares]
        exact (Lending.Bank.movementOf_shares hprice).2
      have howed : moved.assets.toNat = m.owedAt s.chain.pool.now basket := by
        rw [Market.debtOf_eq_owedAt haccrued.settled hdebt, haccrued.owedAt]
      by_cases hsettled : s.chain.pool.now ≤ m.totals.lastUpdate
      · left
        rw [howed, ← Market.debtOf_eq_owedAt hsettled hd]
        exact hcovered
      · exact .inr ⟨hsettled, hcovered, howed⟩

/-- What is repaid is what the basket has less in its wallet, unless it is the pool itself. -/
theorem repayCapped_wallet {available repaid : Amount} {s s' : Session}
    (hne : basket ≠ s.chain.pool.address)
    (h : (repayCapped r basket available).run s = .done repaid s') :
    (s'.chain.tokens.balance r.params.loanAsset basket).toNat + repaid.toNat =
      (s.chain.tokens.balance r.params.loanAsset basket).toNat := by
  obtain ⟨bal, -, ⟨-, rfl, rfl⟩ | ⟨-, moved, b, hrepay, rfl, rfl⟩⟩ :=
    (repayCapped_yields r basket available s).done h
  · rfl
  · obtain ⟨m₀, m₁, m', t, -, -, -, -, -, htransferred, rfl⟩ :=
      (Bank.repay_ends r.params basket _ s.chain.toBank).done hrepay
    have hbalance := htransferred.balance r.params.loanAsset basket
    rw [countIf_pos ⟨rfl, rfl⟩, countIf_neg fun h => hne h.2,
      Nat.add_zero] at hbalance
    exact hbalance

end Operation

/-- **A redemption takes what the tokens owe, or the whole debt.** Let a redemption hook go through
in a world that can come about. What it returns is what the basket has less of the loan asset, and
is at most what the tokens owe at the unit on the ledger. The one exception is where interest is to
come and the tokens owe all that the market has in its books: then it is the debt with that
interest. -/
theorem World.Reachable.redemption_capped {w w' : World} (hw : w.Reachable)
    {caller basket component : Address} {quantity repaid : Amount}
    (h : (World.redeemHook caller basket quantity component false).run w = .done repaid w') :
    ∃ r b m d owed, w.desk.records.get? basket = some r ∧ component = r.params.loanAsset ∧
      w.chain.baskets.get? basket = some b ∧
      (b.externalUnit component w.desk.address).value.toInt < 0 ∧
      owed = ((b.externalUnit component w.desk.address).magnitude.toNat * quantity.toNat) ⌈/⌉
        Amount.one.toNat ∧
      w.chain.pool.markets.get? r.params.id = some m ∧ m.debtOf basket = .ok d ∧
      (basket ≠ w.chain.pool.address →
        (w'.chain.tokens.balance component basket).toNat + repaid.toNat =
          (w.chain.tokens.balance component basket).toNat) ∧
      (repaid.toNat ≤ owed ∨ ¬w.chain.pool.now ≤ m.totals.lastUpdate ∧ d.toNat ≤ owed ∧
        repaid.toNat = m.owedAt w.chain.pool.now basket) := by
  obtain ⟨s, log, hrun, rfl⟩ := World.operate_yields h
  obtain ⟨r, b, owed, s₁, hr, rfl, hb, hnegative, howed, hrepaid, hended⟩ :=
    (Operation.redeemHook_yields caller basket quantity component w.desk _).done hrun
  have hmarket := (hw.orderly.records basket r hr).market
  obtain ⟨bal, hbal, -⟩ := (Operation.repayCapped_yields r basket owed _).done hrepaid
  obtain ⟨m, hm⟩ := Record.exists_market hmarket hbal
  have hd := (Record.balances_market hmarket hm hbal).1
  have hcap := Operation.repayCapped_le hmarket hm hd hrepaid
  rw [PositionUnit.notionalSizeUp_eq_ok howed] at hcap
  refine ⟨r, b, m, bal.borrow, _, hr, rfl, hb, hnegative, rfl, hm, hd, fun hne => ?_, hcap⟩
  have hwallet := Operation.repayCapped_wallet hne hrepaid
  rw [← hended.tokens] at hwallet
  exact hwallet

open Deployment in
/-- The requests after which a levered basket owes a tenth of a percent more than its market has in
its books, and has in its wallet what it takes to repay that. -/
def lapsing : List Request :=
  levering ++ ([.pool (.setRate params (number 1_000_000_000_000)),
    .pool (.advance (number 1_000)), .token (.mint usdc Deployment.basket thousandUsdc),
    .token (.mint usdc Deployment.basket thousandUsdc)] : List ChainRequest).map .chain

open Deployment in
/-- So it is for the basket of the reference deployment with interest to come. -/
theorem World.redemption_capped_of_lapsing : ∃ w w' repaid,
    World.runs lapsing (start .usual) = some w ∧
    (World.redeemHook orchestrator Deployment.basket Amount.one usdc false).run w =
      .done repaid w' ∧
    ∃ r b m d owed, w.desk.records.get? Deployment.basket = some r ∧ usdc = r.params.loanAsset ∧
      w.chain.baskets.get? Deployment.basket = some b ∧
      (b.externalUnit usdc w.desk.address).value.toInt < 0 ∧
      owed = ((b.externalUnit usdc w.desk.address).magnitude.toNat * Amount.one.toNat) ⌈/⌉
        Amount.one.toNat ∧
      w.chain.pool.markets.get? r.params.id = some m ∧ m.debtOf Deployment.basket = .ok d ∧
      (Deployment.basket ≠ w.chain.pool.address →
        (w'.chain.tokens.balance usdc Deployment.basket).toNat + repaid.toNat =
          (w.chain.tokens.balance usdc Deployment.basket).toNat) ∧
      (repaid.toNat ≤ owed ∨ ¬w.chain.pool.now ≤ m.totals.lastUpdate ∧ d.toNat ≤ owed ∧
        repaid.toNat = m.owedAt w.chain.pool.now Deployment.basket) := by
  have hredeems : ((World.runs lapsing (start .usual)).map fun w =>
      ((World.redeemHook orchestrator Deployment.basket Amount.one usdc false).run w).isDone) =
      some true := by decide +kernel
  obtain ⟨w, hw, hredeems⟩ := Option.map_eq_some_iff.1 hredeems
  obtain ⟨repaid, w', hredeem⟩ := Outcome.exists_of_isDone hredeems
  have hreachable : w.Reachable := ⟨pool, router, feeRecipient, holder, owner, .usual, _, hw⟩
  exact ⟨w, w', repaid, hw, hredeem, World.Reachable.redemption_capped hreachable hredeem⟩

open Deployment in
/-- There the hook takes the interest of the whole debt on top of what the tokens owe: a thousand
and one for tokens that owe a thousand. -/
theorem World.redemption_exceeds_of_lapsing : ∃ w w' b repaid,
    World.runs lapsing (start .usual) = some w ∧
    w.chain.baskets.get? Deployment.basket = some b ∧
    (b.externalUnit usdc w.desk.address).value.toInt = -1_000_000_000 ∧
    (World.redeemHook orchestrator Deployment.basket Amount.one usdc false).run w =
      .done repaid w' ∧
    (w'.chain.tokens.balance usdc Deployment.basket).toNat + repaid.toNat =
      (w.chain.tokens.balance usdc Deployment.basket).toNat ∧
    repaid.toNat = 1_001_000_000 ∧
    ¬repaid.toNat ≤ ((b.externalUnit usdc w.desk.address).magnitude.toNat * Amount.one.toNat) ⌈/⌉
      Amount.one.toNat := by
  have hredeems : ((World.runs lapsing (start .usual)).bind fun w =>
      (w.chain.baskets.get? Deployment.basket).map fun b =>
        decide ((b.externalUnit usdc w.desk.address).value.toInt = -1_000_000_000) &&
          ((World.redeemHook orchestrator Deployment.basket Amount.one usdc false).run w).isDoneWith
            fun repaid w' => decide (repaid.toNat = 1_001_000_000) &&
              decide ((w'.chain.tokens.balance usdc Deployment.basket).toNat + repaid.toNat =
                (w.chain.tokens.balance usdc Deployment.basket).toNat)) = some true := by
    decide +kernel
  obtain ⟨w, hw, hredeems⟩ := Option.bind_eq_some_iff.1 hredeems
  obtain ⟨b, hb, hredeems⟩ := Option.map_eq_some_iff.1 hredeems
  simp only [Bool.and_eq_true, decide_eq_true_eq] at hredeems
  obtain ⟨hunit, hredeem⟩ := hredeems
  obtain ⟨repaid, w', hrun, hresult⟩ := Outcome.exists_of_isDoneWith hredeem
  simp only [Bool.and_eq_true, decide_eq_true_eq] at hresult
  obtain ⟨hrepaid, hwallet⟩ := hresult
  refine ⟨w, w', b, repaid, hw, hb, hunit, hrun, hwallet, hrepaid, ?_⟩
  have hmagnitude : (b.externalUnit usdc w.desk.address).magnitude.toNat = 1_000_000_000 := by
    change (b.externalUnit usdc w.desk.address).value.toInt.natAbs = 1_000_000_000
    rw [hunit]
    rfl
  rw [hmagnitude, hrepaid]
  decide

end Leverage

end LeveredBasket
