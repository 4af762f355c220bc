/-
A capped repayment (`LeverageModule::repay_capped`) is exact, and does not fail
for want of shares.

What is repaid is the smaller of the debt and of what is available. Where that is the
debt, its shares are repaid, and they cost just what was read of it. Where it is less, the
assets buy strictly fewer shares than the account owes (`Share.exists_ofAssets_down`): the
debt is the least amount that is worth all shares, so that anything short of it falls
short of them. So neither the account nor the total runs out of shares, the number of
shares has room because those owed have, and one share at least is left.

The shares of one account are a part of the market's, tokens are conserved, and so with
the assets in the wallet each step of the call goes through (`Bank.succeeds_repay`).

But before it repays, the call reads all that the basket has, collateral too, and that is a
sum that may not fit. Then it is refused, however little is owed
(`World.repayCapped_refused_of_overflowing`).
-/
import LeveredBasket.Proofs.Leverage.Conservation
import LeveredBasket.Proofs.Leverage.FullDelever
import LeveredBasket.Proofs.Leverage.Removal
import LeveredBasket.Proofs.Leverage.Symmetry

set_option autoImplicit false

namespace LeveredBasket

/-! ## What is short of a debt -/

/-- **Less than a debt buys less than its shares**, and so many shares there can be. -/
theorem Share.exists_ofAssets_down {shares available debt A S : Amount}
    (hdebt : toAssets .up shares A S = .ok debt) (hshort : available.toNat < debt.toNat) :
    ∃ bought, ofAssets .down available A S = .ok bought ∧ bought.toNat < shares.toNat := by
  obtain ⟨assets, pool, hassets, hpool, hworth⟩ := adjusted_eq_ok.1 hdebt
  obtain ⟨hpos, hworth⟩ := Amount.mulDivUp_eq_ok.1 hworth
  rw [hworth] at hshort
  have hless : available.toNat * pool.toNat / assets.toNat < shares.toNat :=
    Leverage.bought_lt_of_lt_worth hpos hshort
  refine ⟨⟨_, Nat.lt_trans hless shares.isLt⟩, ?_, hless⟩
  refine adjusted_eq_ok.2 ⟨assets, pool, hassets, hpool, Amount.mulDivDown_eq_ok.2 ⟨?_, rfl⟩⟩
  omega

namespace Lending.Bank

variable {b : Bank} {params : MarketParams} {m : Market} {who : Address}

/-- **A repayment goes through** in a market that is up to date, if it has a price, the account
owes the shares and the wallet has the assets. -/
theorem succeeds_repay {amount : RepayAmount} {moved : Movement} (hconserved : b.TokensConserved)
    (hm : b.pool.markets.get? params.id = some m) (hsettled : b.pool.now ≤ m.totals.lastUpdate)
    (hprice : movementOf m.totals amount = .ok moved) (hsome : moved.assets ≠ 0)
    (howes : moved.shares ≤ (m.account who).borrowShares)
    (hle : (m.account who).borrowShares.toNat ≤ m.totals.borrowShares.toNat)
    (hwallet : moved.assets.toNat ≤ (b.tokens.balance params.loanAsset who).toNat) :
    ((repay params who amount).run b).Succeeds fun _ _ => True := by
  have hleft : (m.totals.borrowShares.truncatedSub moved.shares).toNat + moved.shares.toNat =
      m.totals.borrowShares.toNat := Nat.sub_add_cancel (Nat.le_trans howes hle)
  rw [repay, Action.run_bind_of_done (accrue_settled hm hsettled)]
  simp only [Action.succeeds_bind, succeeds_market, succeeds_compute, Action.succeeds_require,
    Action.succeeds_read]
  refine ⟨m, hm, moved, hprice, hsome, howes, (succeeds_move hconserved hwallet).imp ?_⟩
  intro _ _ _
  simp only [settle, succeeds_book, Action.succeeds_bind, succeeds_compute]
  exact ⟨_, Amount.sub_eq_ok.2 hleft, trivial⟩

end Lending.Bank

namespace Leverage

open Lending (Bank Market Movement)

namespace Operation

variable {basket : Address} {r : Record} {m : Market} {bal : Balances} {available : Amount}
variable {s : Session}

/-- **What a capped repayment asks for has a price**, of no more shares than are owed. -/
theorem exists_movementOf (available : Amount) (hdebt : m.debtOf basket = .ok bal.borrow)
    (hshares : bal.borrowShares = (m.account basket).borrowShares) :
    ∃ moved, Bank.movementOf m.totals (repayAmount bal available) = .ok moved ∧
      moved.shares ≤ (m.account basket).borrowShares := by
  have hworth : Lending.Totals.debt m.totals bal.borrowShares = .ok bal.borrow := by
    rw [hshares]
    exact hdebt
  rw [← hshares]
  unfold repayAmount
  split
  case isTrue =>
    exact ⟨⟨bal.borrow, bal.borrowShares⟩, Except.bind_eq_ok.2 ⟨_, hworth, rfl⟩, Nat.le_refl _⟩
  case isFalse hshort =>
    obtain ⟨bought, hbought, hless⟩ :=
      Share.exists_ofAssets_down hworth (Nat.lt_of_not_le hshort)
    exact ⟨⟨available, bought⟩, Except.bind_eq_ok.2 ⟨_, hbought, rfl⟩, Nat.le_of_lt hless⟩

section Settled

variable (hmarket : r.market = r.params.id)
  (hm : s.chain.pool.markets.get? r.params.id = some m)
  (hsettled : s.chain.pool.now ≤ m.totals.lastUpdate)
  (hbal : r.balances s.chain basket = .ok bal)

include hmarket hm hsettled hbal

/-- **A capped repayment goes through** where the balances can be told and the wallet has what is
to be repaid. -/
theorem succeeds_repayCapped (hconserved : s.chain.tokens.Conserved)
    (hle : (m.account basket).borrowShares.toNat ≤ m.totals.borrowShares.toNat)
    (hwallet : min bal.borrow.toNat available.toNat ≤
      (s.chain.tokens.balance r.params.loanAsset basket).toNat) :
    ((repayCapped r basket available).run s).Succeeds fun _ _ => True := by
  obtain ⟨hdebt, hshares⟩ := Record.balances_market hmarket hm hbal
  rw [repayCapped, Action.run_bind_of_done (run_balancesOf hbal)]
  simp only [Action.succeeds_ite, Action.succeeds_bind, succeeds_lending]
  refine ⟨fun _ => trivial, fun hsome => ?_⟩
  -- something is owed and something is available: only then is the market called
  obtain ⟨howes, havailable⟩ := not_or.1 hsome
  obtain ⟨moved, hprice, hcovered⟩ := exists_movementOf available hdebt hshares
  have hassets := movementOf_repayAmount hdebt hshares hprice
  have hpositive : 0 < min bal.borrow.toNat available.toNat :=
    Nat.lt_min.2 ⟨Amount.toNat_pos_iff.2 (debt_ne_zero hdebt (hshares ▸ howes)),
      Amount.toNat_pos_iff.2 havailable⟩
  rw [← hassets] at hwallet hpositive
  have hrepays := Bank.succeeds_repay hconserved hm hsettled hprice
    (Amount.toNat_pos_iff.1 hpositive) hcovered hle hwallet
  exact hrepays.imp fun _ _ _ => trivial

/-- After it the account owes no shares exactly if it owed none, or if what is available covers the
debt. -/
theorem repayCapped_leaves {repaid : Amount} {s' : Session}
    (h : (repayCapped r basket available).run s = .done repaid s') :
    (s'.chain.pool.account r.market basket).borrowShares = 0 ↔
      (s.chain.pool.account r.market basket).borrowShares = 0 ∨ bal.borrow ≤ available := by
  obtain ⟨hdebt, hshares⟩ := Record.balances_market hmarket hm hbal
  rw [r.account_market hmarket hm, ← hshares]
  by_cases howes : bal.borrowShares = 0
  · rw [repayCapped, Action.run_bind_of_done (run_balancesOf hbal), if_pos (.inl howes)] at h
    cases h
    rw [r.account_market hmarket hm, ← hshares, iff_true_left howes]
    exact .inl howes
  · rw [or_iff_right howes]
    exact repayCapped_clears hmarket hm hsettled hdebt (hshares ▸ howes) h

/-- **Where the balances can be told, the smaller of debt and available is repaid.** -/
theorem repayCapped_settles (hconserved : s.chain.tokens.Conserved)
    (hle : (m.account basket).borrowShares.toNat ≤ m.totals.borrowShares.toNat)
    (hwallet : min bal.borrow.toNat available.toNat ≤
      (s.chain.tokens.balance r.params.loanAsset basket).toNat) :
    ∃ repaid s', (repayCapped r basket available).run s = .done repaid s' ∧
      repaid.toNat = min bal.borrow.toNat available.toNat ∧
      ((s'.chain.pool.account r.market basket).borrowShares = 0 ↔
        (s.chain.pool.account r.market basket).borrowShares = 0 ∨ bal.borrow ≤ available) := by
  obtain ⟨repaid, s', hrun, -⟩ := Outcome.succeeds_iff.1
    (succeeds_repayCapped hmarket hm hsettled hbal hconserved hle hwallet)
  obtain ⟨d, m', t, hd, hmin, -⟩ := (repayCapped_pays hmarket hm hsettled available).done hrun
  have hdebt := (Record.balances_market hmarket hm hbal).1
  obtain rfl : bal.borrow = d := Except.ok.inj (hdebt.symm.trans hd)
  exact ⟨repaid, s', hrun, hmin, repayCapped_leaves hmarket hm hsettled hbal hrun⟩

end Settled

/-- Where the balances cannot be told, nothing is repaid, whatever there is to pay with. -/
theorem repayCapped_refuses {e : LeverageError} (h : r.balances s.chain basket = .error e)
    (available : Amount) : (repayCapped r basket available).run s = .refused e s := by
  rw [repayCapped, Action.run_bind, run_balancesOf_error h]

end Operation

/-- **A capped repayment is exact, or refused before it begins.** In a world that can come about,
let the market of a basket's record be up to date, let the basket's debt be one that can be told,
and let it have in its wallet the smaller of that debt and of whatever is available.

If the basket's collateral in wallet and market is an amount together, the repayment goes through
and repays just that; and the account owes no shares afterwards if and only if it owed none before
or what is available covers the debt. If it is more than an amount can be, the repayment is refused
and nothing changes: all balances are read before anything is repaid. -/
theorem World.Reachable.repayCapped_exact {w : World} (hw : w.Reachable) {basket : Address}
    {r : Record} {m : Market} {debt available : Amount} {s : Session}
    (hr : w.desk.records.get? basket = some r)
    (hm : w.chain.pool.markets.get? r.params.id = some m)
    (hsettled : w.chain.pool.now ≤ m.totals.lastUpdate)
    (hdebt : m.debtOf basket = .ok debt)
    (hwallet : min available.toNat debt.toNat ≤
      (w.chain.tokens.balance r.params.loanAsset basket).toNat)
    (hs : s.chain = w.chain) :
    ((w.chain.tokens.balance r.params.collateralAsset basket).toNat +
        (w.chain.pool.account r.market basket).collateral.toNat < 1 <<< 128 →
      ∃ repaid s', (Operation.repayCapped r basket available).run s = .done repaid s' ∧
        repaid.toNat = min available.toNat debt.toNat ∧
        ((s'.chain.pool.account r.market basket).borrowShares = 0 ↔
          (w.chain.pool.account r.market basket).borrowShares = 0 ∨ debt ≤ available)) ∧
    (1 <<< 128 ≤ (w.chain.tokens.balance r.params.collateralAsset basket).toNat +
        (w.chain.pool.account r.market basket).collateral.toNat →
      (Operation.repayCapped r basket available).run s = .refused (.math .overflow) s) := by
  have hmarket := (hw.orderly.records basket r hr).market
  have hle := (Lending.balanced_of_reachable hw _ m hm).borrow_le basket
  have hconserved := hw.conserved
  rw [← hs] at hm hsettled hwallet hconserved ⊢
  rw [Nat.min_comm] at hwallet ⊢
  rw [r.account_market hmarket hm]
  constructor
  · intro hfits
    have hbal : r.balances s.chain basket = .ok ⟨⟨_, hfits⟩, debt, _⟩ :=
      (Record.balances_iff hmarket hm).2 ⟨hdebt, rfl, Amount.add_eq_ok.2 rfl⟩
    have hsettles := Operation.repayCapped_settles hmarket hm hsettled hbal hconserved hle hwallet
    rwa [r.account_market hmarket hm] at hsettles
  · intro hfull
    exact Operation.repayCapped_refuses (Record.balances_overflow hmarket hm hdebt hfull) available

open Deployment in
/-- The levered basket of the reference deployment owes a thousand dollars and has them in its
wallet: with a unit less than that a share is left, and with all of it none. -/
theorem World.repayCapped_exact_of_paying : ∃ w r m short left all cleared,
    World.runs paying (start .usual) = some w ∧
    w.desk.records.get? Deployment.basket = some r ∧
    w.chain.pool.markets.get? r.params.id = some m ∧
    w.chain.pool.now ≤ m.totals.lastUpdate ∧
    m.debtOf Deployment.basket = .ok (number 1_000_000_000) ∧
    (Operation.repayCapped r Deployment.basket (number 999_999_999)).run
      ⟨w.chain, w.desk.records, []⟩ = .done short left ∧ short.toNat = 999_999_999 ∧
    (left.chain.pool.account r.market Deployment.basket).borrowShares ≠ 0 ∧
    (Operation.repayCapped r Deployment.basket (number 1_000_000_000)).run
      ⟨w.chain, w.desk.records, []⟩ = .done all cleared ∧ all.toNat = 1_000_000_000 ∧
    (cleared.chain.pool.account r.market Deployment.basket).borrowShares = 0 := by
  have hpays : ((World.runs paying (start .usual)).bind fun w =>
      (w.desk.records.get? Deployment.basket).bind fun r =>
      (w.chain.pool.markets.get? r.params.id).map fun m =>
        decide (w.chain.pool.now ≤ m.totals.lastUpdate) &&
          decide ((m.debtOf Deployment.basket).toOption = some (number 1_000_000_000)) &&
          decide (w.chain.tokens.balance r.params.loanAsset Deployment.basket =
            number 1_000_000_000) &&
          decide ((w.chain.pool.account r.market Deployment.basket).borrowShares ≠ 0) &&
          decide ((w.chain.tokens.balance r.params.collateralAsset Deployment.basket).toNat +
            (w.chain.pool.account r.market Deployment.basket).collateral.toNat < 1 <<< 128)) =
        some true := by decide +kernel
  obtain ⟨w, hw, hpays⟩ := Option.bind_eq_some_iff.1 hpays
  obtain ⟨r, hr, hpays⟩ := Option.bind_eq_some_iff.1 hpays
  obtain ⟨m, hm, hpays⟩ := Option.map_eq_some_iff.1 hpays
  simp only [Bool.and_eq_true, decide_eq_true_eq] at hpays
  obtain ⟨⟨⟨⟨hsettled, hdebt⟩, hwallet⟩, howes⟩, hfits⟩ := hpays
  have hdebt := Except.eq_ok_of_toOption hdebt
  have hreachable : w.Reachable := ⟨pool, router, feeRecipient, holder, owner, .usual, _, hw⟩
  have hcovers (available : Amount) : min available.toNat (number 1_000_000_000 : Amount).toNat ≤
      (w.chain.tokens.balance r.params.loanAsset Deployment.basket).toNat := by
    rw [hwallet]
    exact Nat.min_le_right _ _
  obtain ⟨short, left, hshort, hless, hleaves⟩ := (World.Reachable.repayCapped_exact hreachable
    (s := ⟨w.chain, w.desk.records, []⟩) hr hm hsettled hdebt
    (hcovers (number 999_999_999)) rfl).1 hfits
  obtain ⟨all, cleared, hall, hexact, hclears⟩ := (World.Reachable.repayCapped_exact hreachable
    (s := ⟨w.chain, w.desk.records, []⟩) hr hm hsettled hdebt
    (hcovers (number 1_000_000_000)) rfl).1 hfits
  refine ⟨w, r, m, short, left, all, cleared, hw, hr, hm, hsettled, hdebt, hshort, hless,
    fun hnone => ?_, hall, hexact, hclears.2 (.inr (Nat.le_refl _))⟩
  rcases hleaves.1 hnone with hnone | hle
  · exact howes hnone
  · exact absurd hle (by decide)

open Deployment in
/-- The basket with more collateral than an amount can be owes three in a market that is up to date,
and has them in its wallet; but to repay them is refused for an overflow. -/
theorem World.repayCapped_refused_of_overflowing : ∃ (w : World) (r : Record) (m : Market),
    w.Reachable ∧
    w.desk.records.get? Deployment.basket = some r ∧
    w.chain.pool.markets.get? r.params.id = some m ∧
    w.chain.pool.now ≤ m.totals.lastUpdate ∧
    m.debtOf Deployment.basket = .ok (number 3) ∧
    w.chain.tokens.balance r.params.loanAsset Deployment.basket = number 3 ∧
    (Operation.repayCapped r Deployment.basket (number 3)).run ⟨w.chain, w.desk.records, []⟩ =
      .refused (.math .overflow) ⟨w.chain, w.desk.records, []⟩ := by
  have hrefuses : ((World.runs overflowing (start .usual)).bind fun w =>
      (w.desk.records.get? Deployment.basket).bind fun r =>
      (w.chain.pool.markets.get? r.params.id).map fun m =>
        decide (w.chain.pool.now ≤ m.totals.lastUpdate) &&
          decide ((m.debtOf Deployment.basket).toOption = some (number 3)) &&
          decide (w.chain.tokens.balance r.params.loanAsset Deployment.basket = number 3) &&
          decide (r.market = r.params.id) &&
          decide (1 <<< 128 ≤
            (w.chain.tokens.balance r.params.collateralAsset Deployment.basket).toNat +
              (m.account Deployment.basket).collateral.toNat)) = some true := by decide +kernel
  obtain ⟨w, hw, hrefuses⟩ := Option.bind_eq_some_iff.1 hrefuses
  obtain ⟨r, hr, hrefuses⟩ := Option.bind_eq_some_iff.1 hrefuses
  obtain ⟨m, hm, hrefuses⟩ := Option.map_eq_some_iff.1 hrefuses
  simp only [Bool.and_eq_true, decide_eq_true_eq] at hrefuses
  obtain ⟨⟨⟨⟨hsettled, hdebt⟩, hwallet⟩, hmarket⟩, hfull⟩ := hrefuses
  have hdebt := Except.eq_ok_of_toOption hdebt
  have hreachable : w.Reachable := ⟨pool, router, feeRecipient, holder, owner, .usual, _, hw⟩
  exact ⟨w, r, m, hreachable, hr, hm, hsettled, hdebt, hwallet, Operation.repayCapped_refuses
    (s := ⟨w.chain, w.desk.records, []⟩) (Record.balances_overflow hmarket hm hdebt hfull) _⟩

end Leverage

end LeveredBasket
