/-
Issuing tokens and redeeming them again comes out even, up to one unit.

An issuance (`LeverageModule::component_issue_hook`) borrows what the tokens owe at
the debt unit of the ledger, rounded down. A redemption
(`LeverageModule::component_redeem_hook`) repays what they owe rounded up, and no
more than the debt. Without the unit being written in between, the two amounts
differ by one at most, and the cap does not come between them: the debt has grown
by what was borrowed, so it is never less than that.

What a call does to a debt is put once for both directions, as a signed change that
is missed by a step at most (`Market.DebtMoved`). A market that has been borrowed
from has shares that are no dearer, so the step of the repayment is no larger than
that of the borrowing (`Market.NoDearer.debtStep_le`).
-/
import LeveredBasket.Proofs.Leverage.Issuance

set_option autoImplicit false

namespace LeveredBasket

/-! ## Roundings -/

/-- A quotient rounded up is the one rounded down, or one more. -/
theorem ceilDiv_eq_div_or (n : Nat) {d : Nat} (hd : 0 < d) :
    n ⌈/⌉ d = n / d ∨ n ⌈/⌉ d = n / d + 1 := by
  have hlow : n / d ≤ n ⌈/⌉ d := by
    rw [← Nat.floorDiv_eq_div]
    exact floorDiv_le_ceilDiv
  have hhigh : n ⌈/⌉ d ≤ n / d + 1 := by
    rw [ceilDiv_le_iff_le_mul hd]
    exact (Nat.lt_mul_div_succ n hd).le
  omega

namespace Lending.Market

variable {m m' : Market} {who : Address} {d d' : Amount}

/-! ## Debts that can be told -/

/-- A debt is told where both totals have room for the virtual amounts. -/
theorem room_of_debtOf (h : m.debtOf who = .ok d) :
    m.totals.borrowAssets.toNat + 1 < 1 <<< 128 ∧
      m.totals.borrowShares.toNat + 1000000 < 1 <<< 128 := by
  obtain ⟨assets, pool, hassets, hpool, -⟩ := Share.adjusted_eq_ok.1 h
  exact ⟨hassets ▸ assets.isLt, hpool ▸ pool.isLt⟩

/-- And wherever they have, since no account owes more than there is. -/
theorem exists_debtOf (hle : (m.account who).borrowShares.toNat ≤ m.totals.borrowShares.toNat)
    (hassets : m.totals.borrowAssets.toNat + 1 < 1 <<< 128)
    (hshares : m.totals.borrowShares.toNat + 1000000 < 1 <<< 128) :
    ∃ d, m.debtOf who = .ok d := by
  have hpos : 0 < m.totals.borrowShares.toNat + 1000000 := Nat.succ_pos _
  -- its shares are some of all, so they are worth no more than all assets, which fit
  have hworth : ((m.account who).borrowShares.toNat * (m.totals.borrowAssets.toNat + 1)) ⌈/⌉
      (m.totals.borrowShares.toNat + 1000000) ≤ m.totals.borrowAssets.toNat + 1 := by
    rw [ceilDiv_le_iff_le_mul hpos]
    exact Nat.mul_le_mul_right _ (by omega)
  refine ⟨⟨_, hworth.trans_lt hassets⟩, ?_⟩
  refine Share.adjusted_eq_ok.2 ⟨⟨_, hassets⟩, ⟨_, hshares⟩, rfl, rfl, ?_⟩
  exact Amount.mulDivUp_eq_ok.2 ⟨hpos, rfl⟩

/-- **No more is owed in the one market than in the other**, in assets or in shares. -/
structure Within (m m' : Market) : Prop where
  assets : m.totals.borrowAssets.toNat ≤ m'.totals.borrowAssets.toNat
  shares : m.totals.borrowShares.toNat ≤ m'.totals.borrowShares.toNat

theorem Within.refl (m : Market) : m.Within m := ⟨Nat.le_refl _, Nat.le_refl _⟩

/-- So a debt can be told where no more is owed than where one could be told. -/
theorem Within.exists_debtOf {x : Address} (h : m.Within m') (hd : m'.debtOf x = .ok d)
    (hle : (m.account who).borrowShares.toNat ≤ m.totals.borrowShares.toNat) :
    ∃ d, m.debtOf who = .ok d := by
  obtain ⟨hassets, hshares⟩ := room_of_debtOf hd
  have hmore := h.assets
  have hmore' := h.shares
  exact Market.exists_debtOf hle (by omega) (by omega)

theorem Borrowed.within {assets : Amount} (h : m.Borrowed who assets m') : m.Within m' := by
  obtain ⟨shares, -, htotal, -⟩ := h.ofShares
  constructor
  · rw [h.assets]
    exact Nat.le_add_right _ _
  · rw [htotal]
    exact Nat.le_add_right _ _

theorem Repaid.within {amount : RepayAmount} {moved : Movement}
    (h : m.Repaid who amount moved m') : m'.Within m := by
  constructor
  · rw [h.assets]
    exact Nat.sub_le _ _
  · rw [← h.shares]
    exact Nat.le_add_right _ _

/-! ## Changes of a debt -/

/-- **The debt of the account has changed by this much**, or by a step more, at the same time of
the market; and the account has no more shares than there are. -/
structure DebtMoved (who : Address) (change : Int) (m m' : Market) : Prop where
  lastUpdate : m'.totals.lastUpdate = m.totals.lastUpdate
  borrow_le : (m'.account who).borrowShares.toNat ≤ m'.totals.borrowShares.toNat
  debt : ∀ d d', m.debtOf who = .ok d → m'.debtOf who = .ok d' →
    (d.toNat : Int) + change ≤ d'.toNat ∧ (d'.toNat : Int) ≤ d.toNat + change + m.totals.debtStep

theorem DebtMoved.refl (hle : (m.account who).borrowShares.toNat ≤ m.totals.borrowShares.toNat) :
    m.DebtMoved who 0 m := by
  refine ⟨rfl, hle, fun d d' hd hd' => ?_⟩
  obtain rfl : d = d' := Except.ok.inj (hd.symm.trans hd')
  omega

theorem Borrowed.debtMoved {assets : Amount} (h : m.Borrowed who assets m')
    (hdealt : m.Dealt who m')
    (hle : (m.account who).borrowShares.toNat ≤ m.totals.borrowShares.toNat) :
    m.DebtMoved who assets.toNat m' := by
  refine ⟨hdealt.lastUpdate, ?_, fun d d' hd hd' => ?_⟩
  · obtain ⟨shares, -, htotal, hheld⟩ := h.ofShares
    omega
  · have hdebt := h.debt hle hd hd'
    omega

theorem Repaid.debtMoved {amount : RepayAmount} {moved : Movement}
    (h : m.Repaid who amount moved m') (hdealt : m.Dealt who m')
    (hle : (m.account who).borrowShares.toNat ≤ m.totals.borrowShares.toNat) :
    m.DebtMoved who (-moved.assets.toNat) m' := by
  refine ⟨hdealt.lastUpdate, ?_, fun d d' hd hd' => ?_⟩
  · have htotal := h.shares
    have hheld := h.account
    omega
  · have hdebt := h.debt hle hd hd'
    omega

/-- Where shares are no dearer, a debt is rounded by no more. -/
theorem NoDearer.debtStep_le (h : m.NoDearer m') : m'.totals.debtStep ≤ m.totals.debtStep := by
  have hstep : (1 * (m'.totals.borrowAssets.toNat + 1)) ⌈/⌉
      (m'.totals.borrowShares.toNat + 1000000) ≤
        (1 * (m.totals.borrowAssets.toNat + 1)) ⌈/⌉ (m.totals.borrowShares.toNat + 1000000) :=
    ceilDiv_le_ceilDiv_of_price (Nat.succ_pos _) (Nat.succ_pos _) h
  rw [Nat.one_mul, Nat.one_mul] at hstep
  exact hstep

end Lending.Market

namespace Leverage

open Lending (Bank Market)

/-! ## The two hooks without a sync -/

namespace Operation

variable {d : Desk} {basket : Address} {r : Record} {m : Market} {s s' : Session}

/-- A hook that is to write no unit ends with what the chain is by then. -/
theorem HookEnded.chain_eq {adjust : Amount → Except MathError Amount} {c c' : Chain}
    (h : HookEnded d basket r adjust c c') (hsync : d.settings.syncOnHook = false) : c' = c := by
  rw [HookEnded, if_neg (by simp [hsync])] at h
  exact h

/-- A capped repayment repays the smaller of the debt and what it may take. -/
theorem movementOf_repayAmount {bal : Balances} {available : Amount} {moved : Lending.Movement}
    (hdebt : m.debtOf basket = .ok bal.borrow)
    (hshares : bal.borrowShares = (m.account basket).borrowShares)
    (h : Bank.movementOf m.totals (repayAmount bal available) = .ok moved) :
    moved.assets.toNat = min bal.borrow.toNat available.toNat := by
  unfold repayAmount at h
  split at h
  case isTrue hcovered =>
    -- all shares are repaid, and they cost what is owed
    have hcovered : bal.borrow.toNat ≤ available.toNat := hcovered
    have hcost := (Lending.Bank.movementOf_shares h).2
    rw [hshares] at hcost
    rw [Except.ok.inj (hcost.symm.trans hdebt), Nat.min_eq_left hcovered]
  case isFalse hshort =>
    have hshort : ¬bal.borrow.toNat ≤ available.toNat := hshort
    rw [(Lending.Bank.movementOf_assets h).1]
    omega

/-- **A capped repayment in a market that is up to date** takes the smaller of the debt and what it
may take, and the basket pays the pool that much. Of the market nothing changes but what is owed. -/
theorem repayCapped_pays (hmarket : r.market = r.params.id)
    (hm : s.chain.pool.markets.get? r.params.id = some m)
    (hsettled : s.chain.pool.now ≤ m.totals.lastUpdate) (available : Amount) :
    ((repayCapped r basket available).run s).Yields fun repaid s' => ∃ debt m' t,
      m.debtOf basket = .ok debt ∧ repaid.toNat = min debt.toNat available.toNat ∧
      (repaid = 0 ∧ m' = m ∨ ∃ amount moved, moved.assets = repaid ∧
        m.Repaid basket amount moved m' ∧ m.Dealt basket m') ∧
      (m'.account basket).collateral = (m.account basket).collateral ∧
      TokenBook.Transferred r.params.loanAsset basket s.chain.pool.address repaid s.chain.tokens
        t ∧
      s' = s.withBank { s.chain.toBank.booked r.params m' with tokens := t } := by
  refine (repayCapped_yields r basket available s).yields ?_
  rintro repaid s₁ ⟨bal, hbal, ⟨hnone, rfl, rfl⟩ | ⟨-, moved, b, hrepay, rfl, rfl⟩⟩
  · obtain ⟨hdebt, hshares⟩ := Record.balances_market hmarket hm hbal
    refine ⟨bal.borrow, m, s₁.chain.tokens, hdebt, ?_, .inl ⟨rfl, rfl⟩, rfl, .none _ _ _ _, ?_⟩
    · rcases hnone with hnone | rfl
      · -- without shares there is no debt
        have howes := debt_of_no_shares (by rw [← hshares, hnone]; rfl) hdebt
        rw [howes]
        exact (Nat.zero_min _).symm
      · exact (Nat.min_zero _).symm
    · rw [Bank.booked_self hm]
      rfl
  · obtain ⟨hdebt, hshares⟩ := Record.balances_market hmarket hm hbal
    obtain ⟨m₀, m₁, m', t, hm₀, haccrued, hrepaid, hdealt, hcollateral, htransferred, rfl⟩ :=
      (Bank.repay_ends r.params basket _ _).done hrepay
    obtain rfl : m = m₀ := Option.some.inj (hm.symm.trans hm₀)
    obtain rfl := haccrued.of_settled hsettled
    exact ⟨bal.borrow, m', t, hdebt, movementOf_repayAmount hdebt hshares hrepaid.price,
      .inr ⟨_, moved, rfl, hrepaid, hdealt⟩, hcollateral, htransferred, rfl⟩

/-- So the debt is moved by what is repaid, and the wallet with it. -/
theorem repayCapped_settled {available repaid : Amount} (hmarket : r.market = r.params.id)
    (hm : s.chain.pool.markets.get? r.params.id = some m)
    (hsettled : s.chain.pool.now ≤ m.totals.lastUpdate)
    (hle : (m.account basket).borrowShares.toNat ≤ m.totals.borrowShares.toNat)
    (h : (repayCapped r basket available).run s = .done repaid s') :
    ∃ debt m', m.debtOf basket = .ok debt ∧ repaid.toNat = min debt.toNat available.toNat ∧
      s'.chain.pool.markets.get? r.params.id = some m' ∧
      m.DebtMoved basket (-repaid.toNat) m' ∧ m'.Within m ∧
      (s'.chain.tokens.balance r.params.loanAsset basket).toNat +
          countIf (basket ≠ s.chain.pool.address) repaid.toNat =
        (s.chain.tokens.balance r.params.loanAsset basket).toNat := by
  obtain ⟨debt, m', t, hdebt, hmin, hmoved, -, htransferred, rfl⟩ :=
    (repayCapped_pays hmarket hm hsettled available).done h
  refine ⟨debt, m', hdebt, hmin, Bank.get?_booked_self, ?_, ?_, htransferred.balance_sender⟩
  · obtain ⟨rfl, rfl⟩ | ⟨amount, moved, rfl, hrepaid, hdealt⟩ := hmoved
    · exact .refl hle
    · exact hrepaid.debtMoved hdealt hle
  · obtain ⟨rfl, rfl⟩ | ⟨amount, moved, rfl, hrepaid, hdealt⟩ := hmoved
    · exact .refl m'
    · exact hrepaid.within

end Operation

section Hooks

variable {w w' : World} {caller basket component : Address} {quantity : Amount} {r : Record}
variable {m : Market}

/-- **An issuance** lends the basket what the tokens owe, rounded down, and does nothing else. -/
theorem World.issueHook_lends (hw : w.Reachable) (hsync : w.desk.settings.syncOnHook = false)
    (hr : w.desk.records.get? basket = some r)
    (hm : w.chain.pool.markets.get? r.params.id = some m)
    (hsettled : w.chain.pool.now ≤ m.totals.lastUpdate) {borrowed : Amount}
    (h : (World.issueHook caller basket quantity component false).run w = .done borrowed w') :
    ∃ b m' t log, component = r.params.loanAsset ∧ w.chain.baskets.get? basket = some b ∧
      (b.externalUnit r.params.loanAsset w.desk.address).notionalSize quantity = .ok borrowed ∧
      m.DebtMoved basket borrowed.toNat m' ∧ m.NoDearer m' ∧ m.Within m' ∧
      (t.balance r.params.loanAsset basket).toNat =
        (w.chain.tokens.balance r.params.loanAsset basket).toNat +
          countIf (basket ≠ w.chain.pool.address) borrowed.toNat ∧
      w' = ⟨{ w.chain with toBank := { w.chain.toBank.booked r.params m' with tokens := t } },
        { w.desk with log := log }⟩ := by
  have hle := (Lending.balanced_of_reachable hw _ m hm).borrow_le basket
  have hrecords := (World.operate_conducted hw.orderly
    (Errand.conducts_issueHook rfl hw.orderly.records _ _ _ _) h).2
  obtain ⟨s, log, hrun, rfl⟩ := World.operate_yields h
  obtain ⟨r₁, b, s₁, hr₁, hcomponent, hb, hborrowed, hborrow, hended⟩ :=
    (Operation.issueHook_yields caller basket quantity component w.desk _).done hrun
  obtain rfl : r = r₁ := Option.some.inj (hr.symm.trans hr₁)
  have hchain := hended.chain_eq hsync
  change s.records = w.desk.records at hrecords
  rw [hchain, hrecords]
  rcases hborrow with ⟨rfl, rfl⟩ | ⟨moved, bank, hborrow, rfl⟩
  · -- the tokens owe less than one unit, and the pool is not asked
    refine ⟨b, m, w.chain.tokens, log, hcomponent, hb, hborrowed, .refl hle, Nat.le_refl _, .refl m,
      ?_, ?_⟩
    · change _ = _ + countIf _ 0
      rw [countIf_zero, Nat.add_zero]
    · rw [Bank.booked_self hm]
  · obtain ⟨m', t, hlent, hdealt, htransferred, rfl⟩ := Bank.borrow_settled hm hsettled hborrow
    exact ⟨b, m', t, log, hcomponent, hb, hborrowed, hlent.debtMoved hdealt hle, hlent.noDearer,
      hlent.within, htransferred.balance_recipient, rfl⟩

/-- **A redemption** repays what the tokens owe, rounded up, or the debt if that is less. -/
theorem World.redeemHook_repays {repaid : Amount}
    (h : (World.redeemHook caller basket quantity component false).run w = .done repaid w')
    (hsync : w.desk.settings.syncOnHook = false)
    (hr : w.desk.records.get? basket = some r) (hmarket : r.market = r.params.id)
    (hm : w.chain.pool.markets.get? r.params.id = some m)
    (hsettled : w.chain.pool.now ≤ m.totals.lastUpdate)
    (hle : (m.account basket).borrowShares.toNat ≤ m.totals.borrowShares.toNat) :
    ∃ b owed debt m', w.chain.baskets.get? basket = some b ∧
      (b.externalUnit r.params.loanAsset w.desk.address).notionalSizeUp quantity = .ok owed ∧
      m.debtOf basket = .ok debt ∧ repaid.toNat = min debt.toNat owed.toNat ∧
      w'.chain.pool.markets.get? r.params.id = some m' ∧
      m.DebtMoved basket (-repaid.toNat) m' ∧ m'.Within m ∧
      (w'.chain.tokens.balance r.params.loanAsset basket).toNat +
          countIf (basket ≠ w.chain.pool.address) repaid.toNat =
        (w.chain.tokens.balance r.params.loanAsset basket).toNat := by
  obtain ⟨s, log, hrun, rfl⟩ := World.operate_yields h
  obtain ⟨r₁, b, owed, s₁, hr₁, -, hb, -, howed, hrepaid, hended⟩ :=
    (Operation.redeemHook_yields caller basket quantity component w.desk _).done hrun
  obtain rfl : r = r₁ := Option.some.inj (hr.symm.trans hr₁)
  obtain ⟨debt, m', hdebt, hmin, hrest⟩ :=
    Operation.repayCapped_settled hmarket hm hsettled hle hrepaid
  rw [← hended.chain_eq hsync] at hrest
  exact ⟨b, owed, debt, m', hb, howed, hdebt, hmin, hrest⟩

end Hooks

/-! ## One after the other -/

/-- **Issuing and redeeming the same tokens comes out even, up to one unit.** In a world that can
come about, let the settings not ask for units to be brought up to date, and the market be up to
date. If an issuance goes through and then the redemption of as many tokens, the component is the
loan asset, and what is repaid is what was borrowed, or one more: the basket ends with the loan
asset it had, or one less. It owes at least what it owed before, less one; and at most two more, if
a share stood for no more than an asset. -/
theorem World.Reachable.hooks_symmetric {w : World} (hw : w.Reachable)
    (hsync : w.desk.settings.syncOnHook = false) {basket : Address} {r : Record}
    {m : Market} (hr : w.desk.records.get? basket = some r)
    (hm : w.chain.pool.markets.get? r.params.id = some m)
    (hsettled : w.chain.pool.now ≤ m.totals.lastUpdate) {caller component : Address}
    {quantity borrowed repaid : Amount} {w₁ w₂ : World}
    (hissue : (World.issueHook caller basket quantity component false).run w = .done borrowed w₁)
    (hredeem :
      (World.redeemHook caller basket quantity component false).run w₁ = .done repaid w₂) :
    component = r.params.loanAsset ∧
    (repaid.toNat = borrowed.toNat ∨ repaid.toNat = borrowed.toNat + 1) ∧
    ((w₂.chain.tokens.balance component basket).toNat =
        (w.chain.tokens.balance component basket).toNat ∨
      (w₂.chain.tokens.balance component basket).toNat + 1 =
        (w.chain.tokens.balance component basket).toNat) ∧
    ∃ m₂ d d₂, w₂.chain.pool.markets.get? r.params.id = some m₂ ∧ m.debtOf basket = .ok d ∧
      m₂.debtOf basket = .ok d₂ ∧ d.toNat ≤ d₂.toNat + 1 ∧
      (m.totals.borrowAssets.toNat + 1 ≤ m.totals.borrowShares.toNat + 1000000 →
        d₂.toNat ≤ d.toNat + 2) := by
  have hmarket := (hw.orderly.records basket r hr).market
  have hle := (Lending.balanced_of_reachable hw _ m hm).borrow_le basket
  obtain ⟨b, m₁, t, log, rfl, hb, hnotional, hlent, hprice, hmore, hwallet, rfl⟩ :=
    World.issueHook_lends hw hsync hr hm hsettled hissue
  have hsettled₁ : w.chain.pool.now ≤ m₁.totals.lastUpdate := by
    rw [hlent.lastUpdate]
    exact hsettled
  obtain ⟨b₁, owed, d₁, m₂, hb₁, howed, hd₁, hmin, hm₂, hpaid, hless, hwallet₂⟩ :=
    World.redeemHook_repays hredeem hsync hr hmarket Bank.get?_booked_self hsettled₁
      hlent.borrow_le
  obtain rfl : b = b₁ := Option.some.inj (hb.symm.trans hb₁)
  -- the two amounts are one quotient, rounded down and rounded up
  have hround : owed.toNat = borrowed.toNat ∨ owed.toNat = borrowed.toNat + 1 := by
    rw [PositionUnit.notionalSizeUp_eq_ok howed, PositionUnit.notionalSize_eq_ok hnotional]
    exact ceilDiv_eq_div_or _ (by decide)
  -- the redemption has read the debt in between, so the ones around it can be told too
  obtain ⟨d, hd⟩ := hmore.exists_debtOf hd₁ hle
  obtain ⟨d₂, hd₂⟩ := hless.exists_debtOf hd₁ hpaid.borrow_le
  obtain ⟨hlow, hhigh⟩ := hlent.debt d d₁ hd hd₁
  obtain ⟨hlow₂, hhigh₂⟩ := hpaid.debt d₁ d₂ hd₁ hd₂
  have hrepaid : repaid.toNat = borrowed.toNat ∨ repaid.toNat = borrowed.toNat + 1 := by omega
  refine ⟨rfl, hrepaid, ?_, m₂, d, d₂, hm₂, hd, hd₂, by omega, fun hfair => ?_⟩
  · change _ = (t.balance r.params.loanAsset basket).toNat at hwallet₂
    change _ + countIf (basket ≠ w.chain.pool.address) repaid.toNat = _ at hwallet₂
    -- what the pool would lend to itself stays where it is
    by_cases hpool : basket = w.chain.pool.address
    · rw [countIf_neg (not_not_intro hpool)] at hwallet hwallet₂
      omega
    · rw [countIf_pos hpool] at hwallet hwallet₂
      omega
  · have hstep := debtStep_le_one hfair
    have hstep₁ := hprice.debtStep_le
    omega

open Deployment in
/-- So it is for the levered basket of the reference deployment, and a quantity that does not come
out even: seven hundred dollars are borrowed, and a unit more is repaid. -/
theorem World.hooks_symmetric_of_paying : ∃ w r m borrowed w₁ repaid w₂ m₂ d d₂,
    World.runs paying (start .usual) = some w ∧
    w.desk.records.get? Deployment.basket = some r ∧
    w.chain.pool.markets.get? r.params.id = some m ∧
    (World.issueHook orchestrator Deployment.basket (number 700_000_000_000_000_001) usdc
      false).run w = .done borrowed w₁ ∧
    (World.redeemHook orchestrator Deployment.basket (number 700_000_000_000_000_001) usdc
      false).run w₁ = .done repaid w₂ ∧
    borrowed.toNat = 700_000_000 ∧
    (repaid.toNat = borrowed.toNat ∨ repaid.toNat = borrowed.toNat + 1) ∧
    ((w₂.chain.tokens.balance usdc Deployment.basket).toNat =
        (w.chain.tokens.balance usdc Deployment.basket).toNat ∨
      (w₂.chain.tokens.balance usdc Deployment.basket).toNat + 1 =
        (w.chain.tokens.balance usdc Deployment.basket).toNat) ∧
    repaid.toNat = 700_000_001 ∧
    w₂.chain.pool.markets.get? r.params.id = some m₂ ∧ m.debtOf Deployment.basket = .ok d ∧
    m₂.debtOf Deployment.basket = .ok d₂ ∧ d.toNat ≤ d₂.toNat + 1 ∧ d₂.toNat ≤ d.toNat + 2 := by
  have hhooks : ((World.runs paying (start .usual)).bind fun w =>
      (w.desk.records.get? Deployment.basket).bind fun r =>
      (w.chain.pool.markets.get? r.params.id).map fun m =>
        !w.desk.settings.syncOnHook &&
          decide (w.chain.pool.now ≤ m.totals.lastUpdate) &&
          decide (m.totals.borrowAssets.toNat + 1 ≤ m.totals.borrowShares.toNat + 1000000) &&
          ((World.issueHook orchestrator Deployment.basket (number 700_000_000_000_000_001) usdc
            false).run w).isDoneWith fun borrowed w₁ =>
              decide (borrowed.toNat = 700_000_000) &&
                ((World.redeemHook orchestrator Deployment.basket
                  (number 700_000_000_000_000_001) usdc false).run w₁).isDoneWith
                    fun repaid _ => decide (repaid.toNat = 700_000_001)) = some true := by
    decide +kernel
  obtain ⟨w, hw, hhooks⟩ := Option.bind_eq_some_iff.1 hhooks
  obtain ⟨r, hr, hhooks⟩ := Option.bind_eq_some_iff.1 hhooks
  obtain ⟨m, hm, hhooks⟩ := Option.map_eq_some_iff.1 hhooks
  simp only [Bool.and_eq_true, decide_eq_true_eq, Bool.not_eq_true'] at hhooks
  obtain ⟨⟨⟨hsync, hsettled⟩, hfair⟩, hissues⟩ := hhooks
  obtain ⟨borrowed, w₁, hissue, hredeems⟩ := Outcome.exists_of_isDoneWith hissues
  simp only [Bool.and_eq_true, decide_eq_true_eq] at hredeems
  obtain ⟨hborrowed, hredeems⟩ := hredeems
  obtain ⟨repaid, w₂, hredeem, hrepaid⟩ := Outcome.exists_of_isDoneWith hredeems
  have hreachable : w.Reachable := ⟨pool, router, feeRecipient, holder, owner, .usual, _, hw⟩
  obtain ⟨-, hsame, hwallet, m₂, d, d₂, hm₂, hd, hd₂, hlow, hhigh⟩ :=
    World.Reachable.hooks_symmetric hreachable hsync hr hm hsettled hissue hredeem
  exact ⟨w, r, m, borrowed, w₁, repaid, w₂, m₂, d, d₂, hw, hr, hm, hissue, hredeem, hborrowed,
    hsame, hwallet, of_decide_eq_true hrepaid, hm₂, hd, hd₂, hlow, hhigh hfair⟩

end Leverage

end LeveredBasket
