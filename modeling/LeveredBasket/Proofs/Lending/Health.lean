/-
Collateral that covers a debt.

The pool checks an account (`SimMarket::is_healthy`) in the middle of a call, when
it has booked a borrowing or a withdrawal, and computes in words. What it has
checked is said here in whole numbers: what the account owes, with interest up to
now, is at most its limit (`Market.Covered`). That survives whatever comes after
the check: collateral that is added raises the limit, a repayment raises nobody's
debt, and calls on other accounts spare this one.

A covered account is not liquidated, at any price at which it is covered and as
long as the clock stands still: the liquidation is refused, because it finds the
account healthy or cannot tell (`Bank.liquidate_refused`).
-/
import LeveredBasket.Proofs.Lending.Bystanders
import LeveredBasket.Proofs.Lending.Custody

set_option autoImplicit false

namespace LeveredBasket.Lending

namespace Market

/-- **What an account may owe**: the value of its collateral at a price, cut by the threshold. The
value and what is left of it are each rounded down. -/
def limit (m : Market) (price : Amount) (who : Address) : Nat :=
  (m.account who).collateral.toNat * price.toNat / priceScale.toNat *
    m.params.threshold.toNat / Amount.one.toNat

/-- **The account is covered**: with interest up to now, it owes no more than it may. -/
def Covered (now : Word 64) (price : Amount) (who : Address) (m : Market) : Prop :=
  m.owedAt now who ≤ m.limit price who

/-- Where the market is up to date, all that goes into a debt is in its books. -/
theorem owedAt_of_settled {m : Market} {now : Word 64} (hsettled : now ≤ m.totals.lastUpdate)
    (who : Address) : m.owedAt now who =
      ((m.account who).borrowShares.toNat * (m.totals.borrowAssets.toNat + 1)) ⌈/⌉
        (m.totals.borrowShares.toNat + 1000000) := by
  rw [owedAt, interestAt_of_settled hsettled, Nat.add_zero]

/-- Who has no shares of the debts owes nothing. -/
theorem owedAt_of_no_shares {m : Market} {now : Word 64} {who : Address}
    (hnone : (m.account who).borrowShares = 0) : m.owedAt now who = 0 := by
  rw [owedAt, hnone, Word.toNat_zero, Nat.zero_mul]
  exact Nat.le_zero.1 ((ceilDiv_le_iff_le_mul (Nat.succ_pos _)).2 (Nat.le_refl _))

end Market

namespace Bank

/-- **The account is secure** in a market: the market is up to date, and the account is covered
there at the price that its oracle quotes. Shares are counted alike everywhere. -/
structure Secure (params : MarketParams) (who : Address) (b : Bank) : Prop where
  balanced : b.Balanced
  market : ∃ m, b.pool.markets.get? params.id = some m ∧ b.pool.now ≤ m.totals.lastUpdate ∧
    m.Covered b.pool.now (b.pool.price params) who

end Bank

/-! ## Health in whole numbers (`SimMarket::is_healthy`) -/

namespace Market

variable {m m' : Market} {now : Word 64} {price : Amount} {who : Address}

theorem borrowLimit_eq_ok {collateral limit : Amount}
    (h : m.borrowLimit collateral price = .ok limit) :
    limit.toNat = collateral.toNat * price.toNat / priceScale.toNat *
      m.params.threshold.toNat / Amount.one.toNat := by
  obtain ⟨value, hvalue, hcut⟩ := Except.bind_eq_ok.1 h
  rw [(Amount.mulDivDown_eq_ok.1 hcut).2, (Amount.mulDivDown_eq_ok.1 hvalue).2]

/-- **Where health can be told, it says whether the account is covered.** -/
theorem healthy_iff_covered {healthy : Bool} (hsettled : now ≤ m.totals.lastUpdate)
    (h : m.isHealthy who price = .ok healthy) : healthy = true ↔ m.Covered now price who := by
  unfold isHealthy at h
  dsimp only at h
  split at h
  case isTrue hnone =>
    obtain rfl := Except.ok.inj h
    refine iff_of_true rfl ?_
    rw [Covered, owedAt_of_no_shares hnone]
    exact Nat.zero_le _
  case isFalse =>
    obtain ⟨debt, hdebt, h⟩ := Except.bind_eq_ok.1 h
    obtain ⟨limit, hlimit, h⟩ := Except.bind_eq_ok.1 h
    obtain rfl := Except.ok.inj h
    rw [decide_eq_true_iff, Covered, Market.limit, ← borrowLimit_eq_ok hlimit,
      ← debtOf_eq_owedAt hsettled hdebt]
    exact Iff.rfl

/-- Who is spared stays covered. -/
theorem Covered.spared (h : m.Covered now price who) (hspares : m.Spares now who m') :
    m'.Covered now price who := by
  unfold Covered limit at h ⊢
  rw [hspares.params, hspares.account]
  exact hspares.owed.trans h

/-- Who adds to the collateral stays covered. -/
theorem Covered.more_collateral (h : m.Covered now price who) (hdealt : m.Dealt who m')
    (htotals : m'.totals = m.totals)
    (hshares : (m'.account who).borrowShares = (m.account who).borrowShares)
    (hmore : (m.account who).collateral.toNat ≤ (m'.account who).collateral.toNat) :
    m'.Covered now price who := by
  have howed : m'.owedAt now who = m.owedAt now who := by
    rw [owedAt, owedAt, interestAt, interestAt, htotals, hshares, hdealt.rate]
  have hlimit : m.limit price who ≤ m'.limit price who := by
    unfold limit
    rw [hdealt.params]
    gcongr
  rw [Covered, howed]
  exact Nat.le_trans h hlimit

/-- Who repays stays covered: there are fewer shares, and they are worth no more. -/
theorem Covered.repaid (h : m.Covered now price who) (hsettled : now ≤ m.totals.lastUpdate)
    {amount : RepayAmount} {moved : Movement} (hrepaid : m.Repaid who amount moved m')
    (hdealt : m.Dealt who m') (hbalanced : m'.Balanced)
    (hcollateral : (m'.account who).collateral = (m.account who).collateral) :
    m'.Covered now price who := by
  have hsettled' : now ≤ m'.totals.lastUpdate := by
    rw [hdealt.lastUpdate]
    exact hsettled
  have hfewer : (m'.account who).borrowShares.toNat ≤ (m.account who).borrowShares.toNat := by
    have := hrepaid.account
    omega
  have howed : m'.owedAt now who ≤ m.owedAt now who := by
    rw [owedAt_of_settled hsettled, owedAt_of_settled hsettled']
    refine (hrepaid.worth_le (hbalanced.borrow_le who)).trans ?_
    refine (ceilDiv_le_iff_le_mul (Nat.succ_pos _)).2 ?_
    rw [Nat.mul_comm (_ + 1000000)]
    exact (Nat.mul_le_mul_right _ hfewer).trans (le_ceilDiv_mul _ (Nat.succ_pos _))
  unfold Covered limit at h ⊢
  rw [hdealt.params, hcollateral]
  exact howed.trans h

end Market

/-! ## Calls of the account -/

namespace Bank

variable {b b' : Bank} {params : MarketParams} {who : Address}

/-- Security is a matter of the pool alone. -/
theorem Secure.of_pool_eq (h : b.Secure params who) (hpool : b'.pool = b.pool) :
    b'.Secure params who := by
  obtain ⟨hbalanced, m, hm, hsettled, hcovered⟩ := h
  refine ⟨?_, m, ?_⟩
  · rw [Balanced, hpool]
    exact hbalanced
  · rw [hpool]
    exact ⟨hm, hsettled, hcovered⟩

/-- **Who borrows is secure.** -/
theorem borrow_secure (hb : b.Balanced) (who : Address) (assets : Amount) (receiver : Address) :
    ((borrow params who assets receiver).run b).Yields fun _ b' => b'.Secure params who := by
  refine ((counts_borrow params who assets receiver b hb).and
    (borrow_ends params who assets receiver b)).yields ?_
  rintro _ _ ⟨hbalanced, m₀, m, m', t, hm₀, haccrued, -, hdealt, -, hhealthy, -, rfl⟩
  have hsettled : b.pool.now ≤ m'.totals.lastUpdate := by
    rw [hdealt.lastUpdate]
    exact haccrued.settled
  exact ⟨hbalanced, m', get?_booked_self, hsettled,
    (Market.healthy_iff_covered hsettled hhealthy).1 rfl⟩

/-- **Who withdraws collateral is secure.** -/
theorem withdrawCollateral_secure (hb : b.Balanced) (who : Address) (amount : Amount)
    (receiver : Address) : ((withdrawCollateral params who amount receiver).run b).Yields
      fun _ b' => b'.Secure params who := by
  refine ((counts_withdrawCollateral params who amount receiver b hb).and
    (withdrawCollateral_ends params who amount receiver b)).yields ?_
  rintro _ _ ⟨hbalanced, m₀, m, m', t, hm₀, haccrued, hdealt, -, -, -, hhealthy, -, rfl⟩
  have hsettled : b.pool.now ≤ m'.totals.lastUpdate := by
    rw [hdealt.lastUpdate]
    exact haccrued.settled
  exact ⟨hbalanced, m', get?_booked_self, hsettled,
    (Market.healthy_iff_covered hsettled hhealthy).1 rfl⟩

/-- Who adds to the collateral stays secure. -/
theorem Secure.supplyCollateral (hb : b.Secure params who) (amount : Amount) :
    ((supplyCollateral params who amount).run b).Yields fun _ b' => b'.Secure params who := by
  obtain ⟨hbalanced, m, hm, hsettled, hcovered⟩ := hb
  refine ((counts_supplyCollateral params who amount b hbalanced).and
    (supplyCollateral_ends params who amount b)).yields ?_
  rintro _ _ ⟨hbalanced', m₀, m', t, hm₀, hdealt, htotals, hshares, hmore, -, rfl⟩
  obtain rfl : m = m₀ := Option.some.inj (hm.symm.trans hm₀)
  refine ⟨hbalanced', m', get?_booked_self, ?_, ?_⟩
  · rw [htotals]
    exact hsettled
  · exact hcovered.more_collateral hdealt htotals hshares (by omega)

/-- Who repays stays secure. -/
theorem Secure.repay (hb : b.Secure params who) (amount : RepayAmount) :
    ((repay params who amount).run b).Yields fun _ b' => b'.Secure params who := by
  obtain ⟨hbalanced, m, hm, hsettled, hcovered⟩ := hb
  refine ((counts_repay params who amount b hbalanced).and
    (repay_ends params who amount b)).yields ?_
  rintro moved _ ⟨hbalanced', m₀, m₁, m', t, hm₀, haccrued, hrepaid, hdealt, hcollateral, -, rfl⟩
  obtain rfl : m = m₀ := Option.some.inj (hm.symm.trans hm₀)
  obtain rfl := haccrued.of_settled hsettled
  refine ⟨hbalanced', m', get?_booked_self, ?_, ?_⟩
  · rw [hdealt.lastUpdate]
    exact hsettled
  · exact hcovered.repaid hsettled hrepaid hdealt (hbalanced' _ m' get?_booked_self) hcollateral

/-! ## Liquidation (`SimMarket::liquidate`) -/

/-- **Whoever is covered is not liquidated**, whatever is to be seized and repaid, and by whom. -/
theorem liquidate_refused {m : Market} (hm : b.pool.markets.get? params.id = some m)
    (hcovered : m.Covered b.pool.now (b.pool.price params) who) (seized repaidShares : Amount)
    (liquidator : Address) : ∃ e b',
      (liquidate params who seized repaidShares liquidator).run b = .refused e b' := by
  rw [liquidate, Action.run_bind]
  have haccrues : (accrue params).run b ≠ .aborted :=
    (finishes_accrue (I := fun _ => True) (fun _ _ _ _ => trivial) params b trivial).1
  cases haccrue : (accrue params).run b with
  | done _ b₁ =>
    obtain ⟨m₀, m₁, hm₀, haccrued, rfl⟩ := (accrue_spec params b).done haccrue
    obtain rfl : m = m₀ := Option.some.inj (hm.symm.trans hm₀)
    have hcovered₁ := hcovered.spared (haccrued.spares who)
    have hmarket : (market params).run (b.booked params m₁) = .done m₁ (b.booked params m₁) := by
      rw [market, Action.run_bind, Action.run_read, get?_booked_self]
      rfl
    dsimp only
    rw [Action.run_bind, hmarket]
    dsimp only
    rw [Action.run_bind, Action.run_read]
    dsimp only
    rw [Action.run_bind]
    cases hhealth : m₁.isHealthy who ((b.booked params m₁).pool.price params) with
    | error e => exact ⟨_, _, rfl⟩
    | ok healthy =>
      have htrue : healthy = true :=
        (Market.healthy_iff_covered haccrued.settled hhealth).2 hcovered₁
      subst htrue
      exact ⟨_, _, rfl⟩
  | refused e b₁ => exact ⟨e, b₁, rfl⟩
  | aborted => exact absurd haccrue haccrues

end Bank

end LeveredBasket.Lending
