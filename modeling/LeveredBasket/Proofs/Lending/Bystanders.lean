/-
Nobody can raise the debt of another.

A call may change the debt of an account that it does not write only by the price
of a share. Interest is the same for all whenever it is accrued, so what is
compared is what an account owes with interest up to now (`Market.owedAt`). A
borrowing (`SimMarket::borrow`) buys its shares at no less than they cost, and a
repayment (`SimMarket::repay`) sells them at no more, so neither makes a share
dearer (`Market.NoDearer`).

One repayment does make it dearer: the one that is rounded up to an asset more
than there are left. The total then stops at zero, and what all the others owe is
rounded up to a single asset, which is what each of them owed at least.
-/
import LeveredBasket.Proofs.Lending.Rounding

set_option autoImplicit false

namespace LeveredBasket.Lending

/-! ## Prices of a share -/

/-- A quotient that rounds up is positive if the numerator is. -/
theorem ceilDiv_pos {n d : Nat} (hn : 0 < n) (hd : 0 < d) : 0 < n ⌈/⌉ d := by
  refine Nat.pos_of_ne_zero fun h => ?_
  have hle := le_ceilDiv_mul n hd
  rw [h] at hle
  omega

/-- At a price that is no higher, shares are worth no more, rounded up. -/
theorem ceilDiv_le_ceilDiv_of_price {shares A A' S S' : Nat} (hS : 0 < S) (hS' : 0 < S')
    (h : A' * S ≤ A * S') : (shares * A') ⌈/⌉ S' ≤ (shares * A) ⌈/⌉ S := by
  refine (ceilDiv_le_iff_le_mul hS').2 (Nat.le_of_mul_le_mul_right ?_ hS)
  calc shares * A' * S = shares * (A' * S) := Nat.mul_assoc _ _ _
    _ ≤ shares * (A * S') := Nat.mul_le_mul_left shares h
    _ = shares * A * S' := (Nat.mul_assoc _ _ _).symm
    _ ≤ (shares * A) ⌈/⌉ S * S * S' := Nat.mul_le_mul_right S' (le_ceilDiv_mul _ hS)
    _ = S' * ((shares * A) ⌈/⌉ S) * S := by ring

/-- A part of a single asset, rounded up, is no more than the same shares' part of any assets. -/
theorem share_of_one_le {shares A S S' : Nat} (hA : 0 < A) (hS : 0 < S) (hle : shares ≤ S') :
    (shares * 1) ⌈/⌉ S' ≤ (shares * A) ⌈/⌉ S := by
  rcases Nat.eq_zero_or_pos shares with rfl | hshares
  · simp
  · have hleast : 0 < (shares * A) ⌈/⌉ S := ceilDiv_pos (Nat.mul_pos hshares hA) hS
    have hmost : (shares * 1) ⌈/⌉ S' ≤ 1 :=
      (ceilDiv_le_iff_le_mul (Nat.lt_of_lt_of_le hshares hle)).2 (by omega)
    omega

namespace Market

variable {m m' m'' : Market} {now : Word 64} {who z : Address} {d : Amount}

/-- What an account owes with interest up to `now`, rounded up. -/
def owedAt (m : Market) (now : Word 64) (who : Address) : Nat :=
  ((m.account who).borrowShares.toNat * (m.totals.borrowAssets.toNat + m.interestAt now + 1)) ⌈/⌉
    (m.totals.borrowShares.toNat + 1000000)

/-- A debt never leaves out more than the interest to come. -/
theorem debtOf_le_owedAt (now : Word 64) (h : m.debtOf who = .ok d) :
    d.toNat ≤ m.owedAt now who := by
  rw [Share.toAssets_up_eq_ok h]
  refine ceilDiv_le_ceilDiv_of_price (Nat.succ_pos _) (Nat.succ_pos _) ?_
  exact Nat.mul_le_mul_right _ (by omega)

/-- Where the market is up to date, a debt leaves out nothing. -/
theorem debtOf_eq_owedAt (hsettled : now ≤ m.totals.lastUpdate) (h : m.debtOf who = .ok d) :
    d.toNat = m.owedAt now who := by
  rw [Share.toAssets_up_eq_ok h, owedAt, interestAt_of_settled hsettled, Nat.add_zero]

/-- **`m'` spares `z`**, seen from `m`: the terms and its account are as they were, and it owes no
more than it did, with interest up to now in both cases. -/
structure Spares (now : Word 64) (z : Address) (m m' : Market) : Prop where
  params : m'.params = m.params
  account : m'.account z = m.account z
  owed : m'.owedAt now z ≤ m.owedAt now z

theorem Spares.refl (now : Word 64) (z : Address) (m : Market) : Spares now z m m :=
  ⟨rfl, rfl, Nat.le_refl _⟩

theorem Spares.trans (h : Spares now z m m') (h' : Spares now z m' m'') : Spares now z m m'' :=
  ⟨h'.params.trans h.params, h'.account.trans h.account, h'.owed.trans h.owed⟩

/-- Interest that is accrued was owed before. -/
theorem Accrued.owedAt (h : Accrued now m m') (who : Address) :
    m'.owedAt now who = m.owedAt now who := by
  have hnone := interestAt_of_settled h.settled
  rw [Market.owedAt, Market.owedAt, h.account, h.borrowShares, h.debts, hnone, Nat.add_zero]

theorem Accrued.spares (h : Accrued now m m') (z : Address) : Spares now z m m' :=
  ⟨h.params, h.account z, (h.owedAt z).le⟩

/-- **A borrow share is no dearer** in `m'` than in `m`. -/
def NoDearer (m m' : Market) : Prop :=
  (m'.totals.borrowAssets.toNat + 1) * (m.totals.borrowShares.toNat + 1000000) ≤
    (m.totals.borrowAssets.toNat + 1) * (m'.totals.borrowShares.toNat + 1000000)

/-- A deal with somebody else spares `z` if it makes no share dearer. -/
theorem Dealt.spares (h : m.Dealt who m') (hz : z ≠ who) (hsettled : now ≤ m.totals.lastUpdate)
    (hprice : m.NoDearer m') : Spares now z m m' := by
  have hsettled' : now ≤ m'.totals.lastUpdate := by
    rw [h.lastUpdate]
    exact hsettled
  have haccount := h.others z hz
  refine ⟨h.params, haccount, ?_⟩
  rw [owedAt, owedAt, haccount, interestAt_of_settled hsettled, interestAt_of_settled hsettled']
  exact ceilDiv_le_ceilDiv_of_price (Nat.succ_pos _) (Nat.succ_pos _) hprice

/-- A deal with somebody else that leaves the total of the debts alone spares `z`, also where
interest is still to come. -/
theorem Dealt.spares_of_borrow_eq (h : m.Dealt who m') (hz : z ≠ who)
    (hassets : m'.totals.borrowAssets = m.totals.borrowAssets)
    (hshares : m'.totals.borrowShares = m.totals.borrowShares) : Spares now z m m' := by
  have haccount := h.others z hz
  have hinterest : m'.interestAt now = m.interestAt now := by
    rw [interestAt, interestAt, hassets, h.rate, h.lastUpdate]
  refine ⟨h.params, haccount, ?_⟩
  rw [owedAt, owedAt, haccount, hassets, hshares, hinterest]

variable {assets : Amount} {amount : RepayAmount} {moved : Movement}

/-- Who borrows pays for the shares at least what they cost. -/
theorem Borrowed.noDearer (h : m.Borrowed who assets m') : m.NoDearer m' := by
  obtain ⟨shares, hshares, htotal, -⟩ := h.ofShares
  have hcost := le_ceilDiv_mul (assets.toNat * (m.totals.borrowShares.toNat + 1000000))
    (Nat.succ_pos m.totals.borrowAssets.toNat)
  rw [Nat.succ_eq_add_one, ← hshares] at hcost
  rw [NoDearer, h.assets, htotal]
  linarith

/-- Who repays pays at least what the shares are worth, as long as there is so much in the total. -/
theorem Repaid.noDearer (h : m.Repaid who amount moved m')
    (hassets : moved.assets.toNat ≤ m.totals.borrowAssets.toNat) : m.NoDearer m' := by
  have hpaid := (movementOf_bracket h.price).1
  have htotal : m'.totals.borrowAssets.toNat + moved.assets.toNat =
      m.totals.borrowAssets.toNat := by
    have := h.assets
    omega
  have hshares := h.shares
  rw [NoDearer, ← htotal, ← hshares]
  rw [← htotal, ← hshares] at hpaid
  linarith

/-- **Shares that are left after a repayment are worth no more than before**, rounded up. If the
repayment uses up the total, they are worth at most one asset, and were worth at least one. -/
theorem Repaid.worth_le (h : m.Repaid who amount moved m') {shares : Nat}
    (hshares : shares ≤ m'.totals.borrowShares.toNat) :
    (shares * (m'.totals.borrowAssets.toNat + 1)) ⌈/⌉ (m'.totals.borrowShares.toNat + 1000000) ≤
      (shares * (m.totals.borrowAssets.toNat + 1)) ⌈/⌉ (m.totals.borrowShares.toNat + 1000000) := by
  rcases h.assets_le with hassets | ⟨hassets, -⟩
  · exact ceilDiv_le_ceilDiv_of_price (Nat.succ_pos _) (Nat.succ_pos _) (h.noDearer hassets)
  · have hnone : m'.totals.borrowAssets.toNat = 0 := by
      have := h.assets
      omega
    rw [hnone]
    exact share_of_one_le (Nat.succ_pos _) (Nat.succ_pos _) (by omega)

/-- **A repayment spares all others.** -/
theorem Repaid.spares (h : m.Repaid who amount moved m') (hdealt : m.Dealt who m')
    (hbalanced : m'.Balanced) (hz : z ≠ who) (hsettled : now ≤ m.totals.lastUpdate) :
    Spares now z m m' := by
  have haccount := hdealt.others z hz
  have hsettled' : now ≤ m'.totals.lastUpdate := by
    rw [hdealt.lastUpdate]
    exact hsettled
  refine ⟨hdealt.params, haccount, ?_⟩
  have hworth := h.worth_le (hbalanced.borrow_le z)
  rw [owedAt, owedAt, interestAt_of_settled hsettled, interestAt_of_settled hsettled', ← haccount]
  exact hworth

end Market

/-- **`m'` is `m` once the lender has deposited**: assets and shares are added to the totals, the
shares to the account, and the shares are what the assets buy, rounded down. -/
structure Market.Deposited (who : Address) (assets shares : Amount) (m m' : Market) : Prop where
  price : Share.ofAssets .down assets m.totals.supplyAssets m.totals.supplyShares = .ok shares
  account : (m'.account who).supplyShares.toNat =
    (m.account who).supplyShares.toNat + shares.toNat
  assets : m'.totals.supplyAssets.toNat = m.totals.supplyAssets.toNat + assets.toNat
  shares : m'.totals.supplyShares.toNat = m.totals.supplyShares.toNat + shares.toNat

/-! ## Calls that go through -/

namespace Bank

variable {b b' b'' : Bank} {params : MarketParams} {z : Address}

/-- A deposit that goes through accrues the market and deals with the lender alone, whose deposit is
added to what the market has. -/
theorem supply_ends (params : MarketParams) (lender : Address) (assets : Amount) (b : Bank) :
    ((supply params lender assets).run b).Ends
      (fun shares b' => ∃ m₀ m m' t, b.pool.markets.get? params.id = some m₀ ∧
        m₀.Accrued b.pool.now m ∧ m.Dealt lender m' ∧
        m'.totals.borrowAssets = m.totals.borrowAssets ∧
        m'.totals.borrowShares = m.totals.borrowShares ∧ m.Deposited lender assets shares m' ∧
        b' = { b.booked params m' with tokens := t })
      fun _ _ => True := by
  simp only [supply, Action.ends_bind, Action.ends_require, Action.ends_read, ends_market,
    ends_compute, ends_book, booked_booked, Action.run_pure, Outcome.ends_done, implies_true,
    and_true]
  intro _
  refine (accrue_spec params b).yields ?_
  rintro _ _ ⟨m₀, m, hm₀, haccrued, rfl⟩ m₁ hm₁
  obtain rfl : m = m₁ := Option.some.inj (get?_booked_self.symm.trans hm₁)
  intro shares hshares
  refine (move_spec _ _ _ _ _).yields ?_
  rintro _ _ ⟨t, -, rfl⟩ supplyAssets hassets supplyShares htotal held hheld
  have hwritten := m.account_setAccount lender lender
    { m.account lender with supplyShares := held }
  rw [if_pos rfl] at hwritten
  have haccount := congrArg (fun a => a.supplyShares.toNat) hwritten
  refine ⟨m₀, m, _, t, hm₀, haccrued, ?_, ?_, ?_, ?_,
    congrArg (fun b₁ : Bank => { b₁ with tokens := t }) booked_booked⟩
  · exact m.dealt_setAccount lender _ rfl
  · rfl
  · rfl
  · exact ⟨hshares, haccount.trans (Amount.add_eq_ok.1 hheld), Amount.add_eq_ok.1 hassets,
      Amount.add_eq_ok.1 htotal⟩

/-- A deposit of collateral that goes through deals with its owner alone, who has so much more of
it, whether or not there is interest to come, and has paid it to the pool. -/
theorem supplyCollateral_ends (params : MarketParams) (who : Address) (amount : Amount) (b : Bank) :
    ((supplyCollateral params who amount).run b).Ends
      (fun _ b' => ∃ m m' t, b.pool.markets.get? params.id = some m ∧ m.Dealt who m' ∧
        m'.totals = m.totals ∧ (m'.account who).borrowShares = (m.account who).borrowShares ∧
        (m'.account who).collateral.toNat =
          (m.account who).collateral.toNat + amount.toNat ∧
        TokenBook.Transferred params.collateralAsset who b.pool.address amount b.tokens t ∧
        b' = { b.booked params m' with tokens := t })
      fun _ _ => True := by
  simp only [supplyCollateral, Action.ends_bind, Action.ends_require, Action.ends_read,
    ends_market, ends_compute, ends_book, implies_true, and_true]
  intro _ m hm
  refine (move_spec _ _ _ _ _).yields ?_
  rintro _ _ ⟨t, ht, rfl⟩ collateral hcollateral
  have hwritten := m.account_setAccount who who { m.account who with collateral := collateral }
  rw [if_pos rfl] at hwritten
  have hdebt := congrArg Account.borrowShares hwritten
  have hheld := congrArg (fun a => a.collateral.toNat) hwritten
  exact ⟨m, _, t, hm, m.dealt_setAccount who _ rfl, rfl, hdebt,
    hheld.trans (Amount.add_eq_ok.1 hcollateral), ht, rfl⟩

/-- A withdrawal of collateral that goes through accrues the market and deals with the account
alone, which is healthy without it and whose debt is left as it is; the collateral goes from the
pool to the receiver. -/
theorem withdrawCollateral_ends (params : MarketParams) (who : Address) (amount : Amount)
    (receiver : Address) (b : Bank) :
    ((withdrawCollateral params who amount receiver).run b).Ends
      (fun _ b' => ∃ m₀ m m' t, b.pool.markets.get? params.id = some m₀ ∧
        m₀.Accrued b.pool.now m ∧ m.Dealt who m' ∧ m'.totals = m.totals ∧
        (m'.account who).borrowShares = (m.account who).borrowShares ∧
        (m'.account who).collateral.toNat + amount.toNat =
          (m.account who).collateral.toNat ∧
        m'.isHealthy who (b.pool.price params) = .ok true ∧
        TokenBook.Transferred params.collateralAsset b.pool.address receiver amount b.tokens t ∧
        b' = { b.booked params m' with tokens := t })
      fun _ _ => True := by
  simp only [withdrawCollateral, Action.ends_bind, Action.ends_require, Action.ends_read,
    ends_market, ends_compute, ends_book, implies_true, and_true]
  intro _
  refine (accrue_spec params b).yields ?_
  rintro _ _ ⟨m₀, m, hm₀, haccrued, rfl⟩ m₁ hm₁
  obtain rfl : m = m₁ := Option.some.inj (get?_booked_self.symm.trans hm₁)
  intro hcovered healthy hhealthy htrue
  rw [htrue] at hhealthy
  refine (move_spec _ _ _ _ _).yields ?_
  rintro _ _ ⟨t, ht, rfl⟩
  have hwritten := m.account_setAccount who who
    { m.account who with collateral := (m.account who).collateral.truncatedSub amount }
  rw [if_pos rfl] at hwritten
  have hdebt := congrArg Account.borrowShares hwritten
  have hheld := congrArg (fun a => a.collateral.toNat + amount.toNat) hwritten
  exact ⟨m₀, m, _, t, hm₀, haccrued, m.dealt_setAccount who _ rfl, rfl, hdebt,
    hheld.trans (Nat.sub_add_cancel hcovered), hhealthy, ht,
    congrArg (fun b₁ : Bank => { b₁ with tokens := t }) booked_booked⟩

/-- A liquidation that goes through accrues the market and repays shares of the borrower's, whose
account is the only one that is dealt with. -/
theorem liquidate_ends (params : MarketParams) (borrower : Address) (seized repaidShares : Amount)
    (liquidator : Address) (b : Bank) :
    ((liquidate params borrower seized repaidShares liquidator).run b).Ends
      (fun moved b' => ∃ m₀ m m' t, b.pool.markets.get? params.id = some m₀ ∧
        m₀.Accrued b.pool.now m ∧ m.Repaid borrower (.shares repaidShares) moved m' ∧
        m.Dealt borrower m' ∧ b' = { b.booked params m' with tokens := t })
      fun _ _ => True := by
  simp only [liquidate, settle, Action.ends_bind, Action.ends_require, Action.ends_read,
    ends_market, ends_compute, ends_book, booked_booked, Action.run_pure, Outcome.ends_done,
    implies_true, and_true]
  refine (accrue_spec params b).yields ?_
  rintro _ _ ⟨m₀, m, hm₀, haccrued, rfl⟩ m₁ hm₁
  obtain rfl : m = m₁ := Option.some.inj (get?_booked_self.symm.trans hm₁)
  intro _ _ _ moved hmoved hcovered _
  refine (move_spec _ _ _ _ _).yields ?_
  rintro _ _ ⟨t₁, -, rfl⟩
  refine (move_spec _ _ _ _ _).yields ?_
  rintro _ _ ⟨t, -, rfl⟩ borrowShares hborrow
  obtain ⟨assets, -, hpure⟩ := Except.bind_eq_ok.1 hmoved
  obtain rfl := Except.ok.inj hpure
  have hwritten := m.account_setAccount borrower borrower
    { m.account borrower with
      borrowShares := (m.account borrower).borrowShares.truncatedSub repaidShares
      collateral := (m.account borrower).collateral.truncatedSub seized }
  rw [if_pos rfl] at hwritten
  have hheld := congrArg (fun a => a.borrowShares.toNat + repaidShares.toNat) hwritten
  refine ⟨m₀, m, _, t, hm₀, haccrued, ?_, ?_,
    congrArg (fun b₁ : Bank => { b₁ with tokens := t }) booked_booked⟩
  · exact ⟨hmoved, hcovered, rfl, Amount.sub_eq_ok.1 hborrow,
      hheld.trans (Nat.sub_add_cancel hcovered)⟩
  · exact m.dealt_setAccount borrower _ rfl

/-! ## Calls spare others -/

/-- **`b'` spares `z`**, seen from `b`: so does every market, at the same time. -/
structure Spares (z : Address) (b b' : Bank) : Prop where
  now : b'.pool.now = b.pool.now
  markets : ∀ id m, b.pool.markets.get? id = some m →
    ∃ m', b'.pool.markets.get? id = some m' ∧ m.Spares b.pool.now z m'

theorem Spares.refl (z : Address) (b : Bank) : b.Spares z b :=
  ⟨rfl, fun _ m hm => ⟨m, hm, .refl _ _ _⟩⟩

theorem Spares.trans (h : b.Spares z b') (h' : b'.Spares z b'') : b.Spares z b'' := by
  refine ⟨h'.now.trans h.now, fun id m hm => ?_⟩
  obtain ⟨m', hm', hspares⟩ := h.markets id m hm
  obtain ⟨m'', hm'', hspares'⟩ := h'.markets id m' hm'
  rw [h.now] at hspares'
  exact ⟨m'', hm'', hspares.trans hspares'⟩

/-- Where one market is booked, it is enough that this market spares `z`. -/
theorem spares_booked {m m' : Market} (hm : b.pool.markets.get? params.id = some m)
    (h : m.Spares b.pool.now z m') (t : TokenBook) :
    b.Spares z { b.booked params m' with tokens := t } := by
  refine ⟨rfl, fun id m₁ hm₁ => ?_⟩
  by_cases hid : id = params.id
  · rw [hid, hm] at hm₁
    obtain rfl := Option.some.inj hm₁
    exact ⟨m', hid ▸ get?_booked_self, h⟩
  · refine ⟨m₁, ?_, .refl _ _ _⟩
    have hother : (b.booked params m').pool.markets.get? id = b.pool.markets.get? id := by
      rw [get?_booked, if_neg hid]
    exact hother.trans hm₁

/-- Where the pool is the same, everyone is spared. -/
theorem spares_of_pool_eq (h : b'.pool = b.pool) (z : Address) : b.Spares z b' := by
  refine ⟨by rw [h], fun id m hm => ⟨m, ?_, .refl _ _ _⟩⟩
  rw [h]
  exact hm

/-- **`z` is no worse off** in a market: its account owes the same shares, has the same collateral,
and its debt is at most what it would have been, had interest been accrued before. -/
def NoWorseOff (params : MarketParams) (z : Address) (b b' : Bank) : Prop :=
  ∀ m, b.pool.markets.get? params.id = some m → ∃ m', b'.pool.markets.get? params.id = some m' ∧
    (m'.account z).borrowShares = (m.account z).borrowShares ∧
    (m'.account z).collateral = (m.account z).collateral ∧
    ∀ accrued m₁ d d', (accrue params).run b = .done () accrued →
      accrued.pool.markets.get? params.id = some m₁ → m₁.debtOf z = .ok d →
      m'.debtOf z = .ok d' → d'.toNat ≤ d.toNat

/-- Who is spared is no worse off anywhere. -/
theorem Spares.noWorseOff (h : b.Spares z b') (params : MarketParams) :
    b.NoWorseOff params z b' := by
  intro m hm
  obtain ⟨m', hm', hspares⟩ := h.markets params.id m hm
  refine ⟨m', hm', by rw [hspares.account], by rw [hspares.account], ?_⟩
  intro accrued m₁ d d' haccrue hm₁ hd hd'
  obtain ⟨m₀, m₂, hm₀, haccrued, rfl⟩ := (accrue_spec params b).done haccrue
  obtain rfl : m₂ = m₁ := Option.some.inj (get?_booked_self.symm.trans hm₁)
  obtain rfl : m = m₀ := Option.some.inj (hm.symm.trans hm₀)
  have hbefore : d.toNat = m.owedAt b.pool.now z := by
    rw [Market.debtOf_eq_owedAt haccrued.settled hd, haccrued.owedAt]
  have hafter : d'.toNat ≤ m'.owedAt b.pool.now z := Market.debtOf_le_owedAt b.pool.now hd'
  have howed := hspares.owed
  omega

/-- Interest spares everyone. -/
theorem accrue_spares {b' : Bank} (h : (accrue params).run b = .done () b') (z : Address) :
    b.Spares z b' := by
  obtain ⟨m, m', hm, haccrued, rfl⟩ := (accrue_spec params b).done h
  exact spares_booked hm (haccrued.spares z) b.tokens

end Bank

/-- **A call that goes through spares everyone whose account it does not write.** -/
theorem PoolRequest.spares {q : PoolRequest} {who z : Address} {b b' : Bank}
    (hq : q.account? = some who) (hz : z ≠ who) (hb : b.Balanced)
    (h : q.perform.run b = .done () b') : b.Spares z b' := by
  have hb' : b'.Balanced := ((q.counts b hb).done h)
  cases q with
  | createMarket | setRate | setPrice | advance | accrue => cases hq
  | supply params lender assets =>
    obtain rfl := Option.some.inj hq
    obtain ⟨shares, h⟩ := Action.run_forget_eq_done.1 h
    obtain ⟨m₀, m, m', t, hm₀, haccrued, hdealt, hassets, hshares, -, rfl⟩ :=
      (Bank.supply_ends params lender assets b).done h
    exact Bank.spares_booked hm₀ ((haccrued.spares z).trans
      (hdealt.spares_of_borrow_eq hz hassets hshares)) t
  | supplyCollateral params who amount =>
    obtain rfl := Option.some.inj hq
    obtain ⟨m, m', t, hm, hdealt, htotals, -, -, -, rfl⟩ :=
      (Bank.supplyCollateral_ends params who amount b).done h
    exact Bank.spares_booked hm (hdealt.spares_of_borrow_eq hz (by rw [htotals])
      (by rw [htotals])) t
  | withdrawCollateral params who amount receiver =>
    obtain rfl := Option.some.inj hq
    obtain ⟨m₀, m, m', t, hm₀, haccrued, hdealt, htotals, -, -, -, -, rfl⟩ :=
      (Bank.withdrawCollateral_ends params who amount receiver b).done h
    exact Bank.spares_booked hm₀ ((haccrued.spares z).trans
      (hdealt.spares_of_borrow_eq hz (by rw [htotals]) (by rw [htotals]))) t
  | borrow params who assets receiver =>
    obtain rfl := Option.some.inj hq
    obtain ⟨moved, h⟩ := Action.run_forget_eq_done.1 h
    obtain ⟨m₀, m, m', t, hm₀, haccrued, hborrowed, hdealt, -, -, -, rfl⟩ :=
      (Bank.borrow_ends params who assets receiver b).done h
    exact Bank.spares_booked hm₀ ((haccrued.spares z).trans
      (hdealt.spares hz haccrued.settled hborrowed.noDearer)) t
  | repay params who amount =>
    obtain rfl := Option.some.inj hq
    obtain ⟨moved, h⟩ := Action.run_forget_eq_done.1 h
    obtain ⟨m₀, m, m', t, hm₀, haccrued, hrepaid, hdealt, -, -, rfl⟩ :=
      (Bank.repay_ends params who amount b).done h
    have hbalanced : m'.Balanced := hb' _ m' Bank.get?_booked_self
    exact Bank.spares_booked hm₀ ((haccrued.spares z).trans
      (hrepaid.spares hdealt hbalanced hz haccrued.settled)) t
  | liquidate params borrower seized repaidShares liquidator =>
    obtain rfl := Option.some.inj hq
    obtain ⟨moved, h⟩ := Action.run_forget_eq_done.1 h
    obtain ⟨m₀, m, m', t, hm₀, haccrued, hrepaid, hdealt, rfl⟩ :=
      (Bank.liquidate_ends params borrower seized repaidShares liquidator b).done h
    have hbalanced : m'.Balanced := hb' _ m' Bank.get?_booked_self
    exact Bank.spares_booked hm₀ ((haccrued.spares z).trans
      (hrepaid.spares hdealt hbalanced hz haccrued.settled)) t

end LeveredBasket.Lending

namespace LeveredBasket.Leverage

open Lending (Bank MarketParams PoolRequest)

/-! ## Operations spare others -/

/-- What a request to the pool leaves where it goes through. -/
theorem through_pool {q : PoolRequest} {c c' : Chain}
    (h : (ChainRequest.pool q).through c = some c') :
    q.perform.run c.toBank = .done () c'.toBank := by
  simp only [ChainRequest.through, Chain.onBank, Action.through_within,
    Option.map_eq_some_iff] at h
  obtain ⟨b, hb, rfl⟩ := h
  obtain ⟨_, hrun⟩ := Outcome.through?_eq_some hb
  exact hrun

namespace Errand

variable {k : Errand} {r : ChainRequest} {z : Address} {c c' : Chain}

/-- Whose account a desk asks the pool to write is its basket. -/
theorem Serves.account {q : PoolRequest} (h : k.Serves (.pool q)) :
    q.account? = some k.basket ∨ ∃ params, q = .accrue params := by
  cases h with
  | accrue => exact .inr ⟨_, rfl⟩
  | supplyCollateral | withdrawCollateral | borrow | repay => exact .inl rfl

/-- **What a desk asks of the chain spares everyone but its basket.** -/
theorem Serves.spares (hr : k.Serves r) (hz : z ≠ k.basket) (hc : c.toBank.Balanced)
    (h : r.through c = some c') : c.toBank.Spares z c'.toBank := by
  by_cases hpool : ∃ q, r = .pool q
  · obtain ⟨q, rfl⟩ := hpool
    have hrun := through_pool h
    rcases hr.account with haccount | ⟨params, rfl⟩
    · exact PoolRequest.spares haccount hz hc hrun
    · exact Bank.accrue_spares hrun z
  · -- outside the pool nobody has an account
    have hsame := ChainRequest.pool_after hpool (ChainRequest.after_of_through h)
    exact Bank.spares_of_pool_eq hsame z

/-- So does all that an errand has come to. -/
theorem Moved.spares (h : k.Moved c) (hstart : k.start.toBank.Balanced) (hz : z ≠ k.basket) :
    k.start.toBank.Spares z c.toBank := by
  have hkeeps : c.toBank.Balanced ∧ k.start.toBank.Spares z c.toBank := by
    apply Chain.Comes.keeps (I := fun d => d.toBank.Balanced ∧ k.start.toBank.Spares z d.toBank) h
      ⟨hstart, .refl z _⟩
    rintro r d d' hr ⟨hd, hspares⟩ hthrough
    exact ⟨Lending.after_balanced hd (ChainRequest.after_of_through hthrough),
      hspares.trans (hr.spares hz hd hthrough)⟩
  exact hkeeps.2

end Errand

/-- **Nobody can raise the debt of another.** Let a chain come about from a world that can come
about. A call on an account that goes through leaves everyone else no worse off in any market, and
so does an operation on a basket, with all the calls that it makes on the way. -/
theorem World.Reachable.others_no_worse_off {w : World} (hw : w.Reachable) (params : MarketParams)
    (z : Address) :
    (∀ c, Chain.Moves (fun _ => True) w.chain c → ∀ (q : PoolRequest) who b, q.account? = some who →
      z ≠ who → q.perform.run c.toBank = .done () b → c.toBank.NoWorseOff params z b) ∧
    ∀ basket (operation : BasketOperation) w', z ≠ basket →
      (operation.perform basket).run w = .done () w' →
      w.chain.toBank.NoWorseOff params z w'.chain.toBank := by
  have hbalanced := Lending.balanced_of_reachable hw
  constructor
  · intro c hc q who b hq hz hrun
    have hbalanced' := Lending.balanced_of_moves hc hbalanced
    exact (PoolRequest.spares hq hz hbalanced' hrun).noWorseOff params
  · intro basket operation w' hz hrun
    have hdone := (operation.perform_spec hw.orderly basket fun _ _ => trivial).done hrun
    exact (hdone.chain.spares hbalanced hz).noWorseOff params

open Deployment in
/-- The requests after which the lender and the basket have each borrowed one unit, and the basket
has repaid both, a share each time: all shares but two are left, and no assets. -/
def nibbling : List Request :=
  entering ++ ([.token (.mint wsteth lender Amount.one),
    .token (.mint usdc Deployment.basket thousandUsdc),
    .pool (.supplyCollateral params lender Amount.one), .pool (.borrow params lender 1 lender),
    .pool (.borrow params Deployment.basket 1 Deployment.basket),
    .pool (.repay params Deployment.basket (.shares 1)),
    .pool (.repay params Deployment.basket (.shares 1))] : List ChainRequest).map .chain

open Deployment in
/-- So it is for the lender where the total of the debts has been used up and the basket repays one
share more, or is levered. -/
theorem World.others_no_worse_off_of_nibbling : ∃ w b w',
    World.runs nibbling (start .usual) = some w ∧
    (∃ m, w.chain.pool.markets.get? params.id = some m ∧ m.totals.borrowAssets = 0 ∧
      0 < (m.account lender).borrowShares.toNat) ∧
    (PoolRequest.repay params Deployment.basket (.shares 1)).perform.run w.chain.toBank =
      .done () b ∧
    w.chain.toBank.NoWorseOff params lender b ∧
    ((BasketOperation.lever manager thousandUsdc 0 adapterName []).perform
      Deployment.basket).run w = .done () w' ∧
    w.chain.toBank.NoWorseOff params lender w'.chain.toBank := by
  have hcalls : ((World.runs nibbling (start .usual)).bind fun w =>
      (w.chain.pool.markets.get? params.id).map fun m =>
        decide (m.totals.borrowAssets = 0) &&
          decide (0 < (m.account lender).borrowShares.toNat) &&
          ((PoolRequest.repay params Deployment.basket (.shares 1)).perform.run
            w.chain.toBank).isDone &&
          (((BasketOperation.lever manager thousandUsdc 0 adapterName []).perform
            Deployment.basket).run w).isDone) = some true := by decide +kernel
  obtain ⟨w, hw, hcalls⟩ := Option.bind_eq_some_iff.1 hcalls
  obtain ⟨m, hm, hcalls⟩ := Option.map_eq_some_iff.1 hcalls
  simp only [Bool.and_eq_true, decide_eq_true_eq] at hcalls
  obtain ⟨⟨⟨hnone, howes⟩, hrepays⟩, hlevers⟩ := hcalls
  obtain ⟨_, b, hrepay⟩ := Outcome.exists_of_isDone hrepays
  obtain ⟨_, w', hlever⟩ := Outcome.exists_of_isDone hlevers
  have hreachable : w.Reachable := ⟨pool, router, feeRecipient, holder, owner, .usual, _, hw⟩
  have hother : lender ≠ Deployment.basket := by decide
  obtain ⟨hcall, hoperation⟩ := World.Reachable.others_no_worse_off hreachable params lender
  exact ⟨w, b, w', hw, ⟨m, hm, hnone, howes⟩, hrepay,
    hcall w.chain (.refl _) _ Deployment.basket b rfl hother hrepay, hlever,
    hoperation Deployment.basket _ w' hother hlever⟩

end LeveredBasket.Leverage
