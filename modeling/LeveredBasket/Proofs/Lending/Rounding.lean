/-
Rounding never pays a borrower.

A borrowing (`SimMarket::borrow`) buys shares at a price that is rounded up, a
repayment (`SimMarket::repay`) sells them at a price that is rounded down, and the
debt of the shares that are left is rounded up once more, at the price after the
call. Each rounding is against the borrower, and all of them together by no more
than one share is worth, rounded up (`Totals.debtStep`).

One bound serves both directions, with a borrowing as a repayment of a negative
amount (`sub_le_of_bracket`, `le_add_step_of_bracket`). Where the total runs out
before the repayment does, the account had all of it, and the bound is shown
apart.
-/
import LeveredBasket.Proofs.Lending.Shares
import Mathlib.Tactic.Linarith
import Mathlib.Tactic.Ring

set_option autoImplicit false

namespace LeveredBasket.Lending

/-! ## Brackets

Of a market with `A` assets and `S` shares, both with the virtual amounts in them,
`taken` shares are taken for `paid` assets. An account that held `held` shares
owed `debt` before, and owes `debt'` after. -/

section Bracket

variable {A S paid taken held debt debt' step : Int}

/-- The debt falls by no more than what is paid. -/
theorem sub_le_of_bracket (hS : 0 < S) (hleft : 0 < S - taken) (hheld : held ≤ S)
    (hpaid : taken * A ≤ paid * S) (hdebt : debt * S < held * A + S)
    (hdebt' : (held - taken) * (A - paid) ≤ debt' * (S - taken)) : debt - paid ≤ debt' := by
  -- both summands are roundings, and both are against the account
  have hgap : S * ((held - taken) * (A - paid) - (debt - 1 - paid) * (S - taken)) =
      (held * A + S - debt * S) * (S - taken) + (paid * S - taken * A) * (S - held) := by
    ring
  have hdebtRound : 0 < (held * A + S - debt * S) * (S - taken) := mul_pos (by omega) hleft
  have hpaidRound : 0 ≤ (paid * S - taken * A) * (S - held) := mul_nonneg (by omega) (by omega)
  have hpos : 0 < (held - taken) * (A - paid) - (debt - 1 - paid) * (S - taken) :=
    pos_of_mul_pos_right (by omega) hS.le
  have hlt : (debt - 1 - paid) * (S - taken) < debt' * (S - taken) := by omega
  have hlt' : debt - 1 - paid < debt' := lt_of_mul_lt_mul_right hlt hleft.le
  omega

/-- It falls by at least that, up to a step. -/
theorem le_add_step_of_bracket (hS : 0 < S) (hleft : 0 < S - taken) (hheld : held ≤ S)
    (htaken : taken ≤ held) (hpaid : taken * A ≤ paid * S)
    (hstep : paid * S ≤ taken * A + step * S) (hdebt : held * A ≤ debt * S)
    (hdebt' : debt' * (S - taken) < (held - taken) * (A - paid) + (S - taken)) :
    debt' ≤ debt - paid + step := by
  -- the gap to the bound is a rounding of the debt, and what a step leaves of the payment's
  have hgap : S * ((debt - paid + step) * (S - taken) - (held - taken) * (A - paid)) =
      (debt * S - held * A) * (S - taken) +
        (step * S * (S - taken) - (paid * S - taken * A) * (S - held)) := by
    ring
  have hdebtRound : 0 ≤ (debt * S - held * A) * (S - taken) := mul_nonneg (by omega) hleft.le
  have hpaidRound : (paid * S - taken * A) * (S - held) ≤ step * S * (S - taken) :=
    mul_le_mul (by omega) (by omega) (by omega) (by omega)
  have hnonneg : 0 ≤ (debt - paid + step) * (S - taken) - (held - taken) * (A - paid) :=
    nonneg_of_mul_nonneg_right (by omega) hS
  have hlt : debt' * (S - taken) < (debt - paid + step + 1) * (S - taken) := by
    rw [add_mul _ 1]
    omega
  have hlt' : debt' < debt - paid + step + 1 := lt_of_mul_lt_mul_right hlt hleft.le
  omega

end Bracket

/-- What is less than a multiple and one more is at most the multiple. -/
theorem le_of_mul_lt_mul_add {x y S : Nat} (h : x * S < y * S + S) : x ≤ y := by
  have hlt : x * S < (y + 1) * S := by
    rw [Nat.succ_mul]
    exact h
  have hlt' : x < y + 1 := Nat.lt_of_mul_lt_mul_right hlt
  omega

/-! ## Debts and prices -/

namespace Totals

variable {t : Totals} {shares d : Amount}

/-- **The step of a debt**: what one borrow share stands for, rounded up. -/
def debtStep (t : Totals) : Nat :=
  (t.borrowAssets.toNat + 1) ⌈/⌉ (t.borrowShares.toNat + 1000000)

theorem assets_le_debtStep_mul (t : Totals) :
    t.borrowAssets.toNat + 1 ≤ t.debtStep * (t.borrowShares.toNat + 1000000) :=
  le_ceilDiv_mul _ (Nat.succ_pos _)

theorem debtStep_pos (t : Totals) : 0 < t.debtStep := by
  refine Nat.pos_of_ne_zero fun h => ?_
  have hle := t.assets_le_debtStep_mul
  rw [h] at hle
  omega

theorem shares_le_debtStep_mul (t : Totals) :
    t.borrowShares.toNat + 1000000 ≤ t.debtStep * (t.borrowShares.toNat + 1000000) :=
  Nat.le_mul_of_pos_left _ t.debtStep_pos

/-- A debt is what its shares are worth, and less than a unit more. -/
theorem debt_bracket (h : t.debt shares = .ok d) :
    shares.toNat * (t.borrowAssets.toNat + 1) ≤ d.toNat * (t.borrowShares.toNat + 1000000) ∧
      d.toNat * (t.borrowShares.toNat + 1000000) <
        shares.toNat * (t.borrowAssets.toNat + 1) + (t.borrowShares.toNat + 1000000) := by
  rw [Share.toAssets_up_eq_ok h]
  exact ⟨le_ceilDiv_mul _ (Nat.succ_pos _), ceilDiv_mul_lt _ (Nat.succ_pos _)⟩

end Totals

/-! ## Borrowing and repaying (`SimMarket::borrow`, `SimMarket::repay`) -/

namespace Bank

variable {totals : Totals} {moved : Movement}

/-- Who repays assets repays these, and what they buy of the shares. -/
theorem movementOf_assets {assets : Amount}
    (h : movementOf totals (.assets assets) = .ok moved) : moved.assets = assets ∧
      Share.ofAssets .down assets totals.borrowAssets totals.borrowShares = .ok moved.shares := by
  obtain ⟨shares, hshares, hmoved⟩ := Except.bind_eq_ok.1 h
  obtain rfl := Except.ok.inj hmoved
  exact ⟨rfl, hshares⟩

/-- Who repays shares repays their debt. -/
theorem movementOf_shares {shares : Amount}
    (h : movementOf totals (.shares shares) = .ok moved) :
    moved.shares = shares ∧ totals.debt shares = .ok moved.assets := by
  obtain ⟨assets, hassets, hmoved⟩ := Except.bind_eq_ok.1 h
  obtain rfl := Except.ok.inj hmoved
  exact ⟨rfl, hassets⟩

end Bank

namespace Market

/-- What an account owes, rounded up. -/
def debtOf (m : Market) (who : Address) : Except MathError Amount :=
  m.totals.debt (m.account who).borrowShares

/-- **`m'` is `m` once the account has borrowed**: assets and shares are added to the totals, the
shares to the account, and the shares are what the assets cost, rounded up. -/
structure Borrowed (who : Address) (assets : Amount) (m m' : Market) : Prop where
  ofShares : ∃ shares : Amount,
    shares.toNat = (assets.toNat * (m.totals.borrowShares.toNat + 1000000)) ⌈/⌉
      (m.totals.borrowAssets.toNat + 1) ∧
    m'.totals.borrowShares.toNat = m.totals.borrowShares.toNat + shares.toNat ∧
    (m'.account who).borrowShares.toNat = (m.account who).borrowShares.toNat + shares.toNat
  assets : m'.totals.borrowAssets.toNat = m.totals.borrowAssets.toNat + assets.toNat

/-- **`m'` is `m` once the account has repaid**: what has moved is taken off the totals, as far as
there is any, and the shares off the account, which had them. -/
structure Repaid (who : Address) (amount : RepayAmount) (moved : Movement) (m m' : Market) :
    Prop where
  price : Bank.movementOf m.totals amount = .ok moved
  covered : moved.shares.toNat ≤ (m.account who).borrowShares.toNat
  assets : m'.totals.borrowAssets.toNat = m.totals.borrowAssets.toNat - moved.assets.toNat
  shares : m'.totals.borrowShares.toNat + moved.shares.toNat = m.totals.borrowShares.toNat
  account : (m'.account who).borrowShares.toNat + moved.shares.toNat =
    (m.account who).borrowShares.toNat

variable {who : Address} {assets d d' : Amount} {amount : RepayAmount} {moved : Movement}
variable {m m' : Market}

/-- **Who borrows owes at least that much more**, and at most a step above it. -/
theorem Borrowed.debt (h : m.Borrowed who assets m')
    (hle : (m.account who).borrowShares.toNat ≤ m.totals.borrowShares.toNat)
    (hd : m.debtOf who = .ok d) (hd' : m'.debtOf who = .ok d') :
    d.toNat + assets.toNat ≤ d'.toNat ∧
      d'.toNat ≤ d.toNat + assets.toNat + m.totals.debtStep := by
  -- a borrowing is a repayment of a negative amount, so the brackets apply with the signs turned
  obtain ⟨shares, hshares, htotal, hheld⟩ := h.ofShares
  obtain ⟨hlow, hhigh⟩ := Totals.debt_bracket hd
  obtain ⟨hlow', hhigh'⟩ := Totals.debt_bracket hd'
  have hcost := le_ceilDiv_mul (assets.toNat * (m.totals.borrowShares.toNat + 1000000))
    (Nat.succ_pos m.totals.borrowAssets.toNat)
  have hcost' := ceilDiv_mul_lt (assets.toNat * (m.totals.borrowShares.toNat + 1000000))
    (Nat.succ_pos m.totals.borrowAssets.toNat)
  have hstep := m.totals.assets_le_debtStep_mul
  rw [Nat.succ_eq_add_one, ← hshares] at hcost hcost'
  rw [htotal, h.assets, hheld] at hlow' hhigh'
  zify at hlow hhigh hlow' hhigh' hcost hcost' hstep hle ⊢
  have hS : 0 < (m.totals.borrowShares.toNat : Int) + 1000000 := by omega
  have hleft : 0 < (m.totals.borrowShares.toNat : Int) + 1000000 - -(shares.toNat : Int) := by
    omega
  have hpaid : -(shares.toNat : Int) * (m.totals.borrowAssets.toNat + 1) ≤
      -(assets.toNat : Int) * (m.totals.borrowShares.toNat + 1000000) := by
    linarith
  have hlower : (d.toNat : Int) - -assets.toNat ≤ d'.toNat :=
    sub_le_of_bracket hS hleft (by omega) hpaid hhigh (by linarith)
  have hupper : (d'.toNat : Int) ≤ d.toNat - -assets.toNat + m.totals.debtStep :=
    le_add_step_of_bracket hS hleft (by omega) (by omega) hpaid (by linarith) hlow (by linarith)
  omega

/-- **What a repayment moves**: assets that cover the shares, and that would not cover a share more,
or would not cover them with an asset less. -/
theorem movementOf_bracket (h : Bank.movementOf m.totals amount = .ok moved) :
    moved.shares.toNat * (m.totals.borrowAssets.toNat + 1) ≤
        moved.assets.toNat * (m.totals.borrowShares.toNat + 1000000) ∧
      (moved.assets.toNat * (m.totals.borrowShares.toNat + 1000000) <
          (moved.shares.toNat + 1) * (m.totals.borrowAssets.toNat + 1) ∨
        moved.assets.toNat * (m.totals.borrowShares.toNat + 1000000) <
          moved.shares.toNat * (m.totals.borrowAssets.toNat + 1) +
            (m.totals.borrowShares.toNat + 1000000)) := by
  cases amount with
  | assets assets =>
    obtain ⟨hassets, hshares⟩ := Bank.movementOf_assets h
    rw [hassets, Share.ofAssets_down_eq_ok hshares]
    refine ⟨Nat.div_mul_le_self _ _, .inl ?_⟩
    exact (Nat.div_lt_iff_lt_mul (Nat.succ_pos _)).1 (Nat.lt_succ_self _)
  | shares shares =>
    obtain ⟨hshares, hassets⟩ := Bank.movementOf_shares h
    obtain ⟨hlow, hhigh⟩ := Totals.debt_bracket hassets
    rw [hshares]
    exact ⟨hlow, .inr hhigh⟩

/-- It takes no more assets than are owed in total, or a single one more; that one is rounded up
to. -/
theorem Repaid.assets_le (h : m.Repaid who amount moved m') :
    moved.assets.toNat ≤ m.totals.borrowAssets.toNat ∨
      moved.assets.toNat = m.totals.borrowAssets.toNat + 1 ∧
        moved.assets.toNat * (m.totals.borrowShares.toNat + 1000000) <
          moved.shares.toNat * (m.totals.borrowAssets.toNat + 1) +
            (m.totals.borrowShares.toNat + 1000000) := by
  have hshares : moved.shares.toNat + 1 ≤ m.totals.borrowShares.toNat + 1000000 := by
    have := h.shares
    omega
  have hworth : (moved.shares.toNat + 1) * (m.totals.borrowAssets.toNat + 1) ≤
      (m.totals.borrowShares.toNat + 1000000) * (m.totals.borrowAssets.toNat + 1) :=
    Nat.mul_le_mul_right _ hshares
  obtain ⟨-, hless | hless⟩ := movementOf_bracket h.price
  · -- assets were given: a share more would have cost more than they are
    left
    refine le_of_mul_lt_mul_add (S := m.totals.borrowShares.toNat + 1000000) ?_
    linarith
  · -- shares were given: the assets are rounded up, and all shares are worth all assets
    have hlt : moved.assets.toNat ≤ m.totals.borrowAssets.toNat + 1 := by
      refine le_of_mul_lt_mul_add (S := m.totals.borrowShares.toNat + 1000000) ?_
      linarith
    by_cases hle : moved.assets.toNat ≤ m.totals.borrowAssets.toNat
    · exact .inl hle
    · exact .inr ⟨by omega, hless⟩

/-- Both ways a repayment is rounded, it is rounded by less than a step for each share there is. -/
theorem movementOf_le_step (h : Bank.movementOf m.totals amount = .ok moved) :
    moved.assets.toNat * (m.totals.borrowShares.toNat + 1000000) ≤
      moved.shares.toNat * (m.totals.borrowAssets.toNat + 1) +
        m.totals.debtStep * (m.totals.borrowShares.toNat + 1000000) := by
  have hassets := m.totals.assets_le_debtStep_mul
  have hshares := m.totals.shares_le_debtStep_mul
  obtain ⟨-, hless | hless⟩ := movementOf_bracket h
  · linarith
  · linarith

/-- A repayment that leaves no assets has paid the account's debt exactly, and what may be left of
it is a single asset. -/
theorem Repaid.debt_of_used_up (h : m.Repaid who amount moved m')
    (hle : (m.account who).borrowShares.toNat ≤ m.totals.borrowShares.toNat)
    (hd : m.debtOf who = .ok d) (hd' : m'.debtOf who = .ok d')
    (hassets : moved.assets.toNat = m.totals.borrowAssets.toNat + 1)
    (hless : moved.assets.toNat * (m.totals.borrowShares.toNat + 1000000) <
      moved.shares.toNat * (m.totals.borrowAssets.toNat + 1) +
        (m.totals.borrowShares.toNat + 1000000)) :
    d.toNat = moved.assets.toNat ∧ d'.toNat ≤ 1 := by
  obtain ⟨hlow, hhigh⟩ := Totals.debt_bracket hd
  have hhigh' := (Totals.debt_bracket hd').2
  have hnone : m'.totals.borrowAssets.toNat = 0 := by
    have := h.assets
    omega
  have hshares := h.shares
  have haccount := h.account
  have hworth : moved.shares.toNat * moved.assets.toNat ≤
      (m.account who).borrowShares.toNat * moved.assets.toNat := Nat.mul_le_mul_right _ h.covered
  have hworth' : (m.account who).borrowShares.toNat * moved.assets.toNat ≤
      m.totals.borrowShares.toNat * moved.assets.toNat := Nat.mul_le_mul_right _ hle
  rw [← hassets] at hlow hhigh hless
  rw [hnone] at hhigh'
  refine ⟨Nat.le_antisymm ?_ ?_, ?_⟩
  · refine le_of_mul_lt_mul_add (S := m.totals.borrowShares.toNat + 1000000) ?_
    linarith
  · refine le_of_mul_lt_mul_add (S := m.totals.borrowShares.toNat + 1000000) ?_
    linarith
  · refine le_of_mul_lt_mul_add (S := m'.totals.borrowShares.toNat + 1000000) ?_
    linarith

/-- **Who repays owes at most that much less**, up to a step. -/
theorem Repaid.debt (h : m.Repaid who amount moved m')
    (hle : (m.account who).borrowShares.toNat ≤ m.totals.borrowShares.toNat)
    (hd : m.debtOf who = .ok d) (hd' : m'.debtOf who = .ok d') :
    (d.toNat : Int) - moved.assets.toNat ≤ d'.toNat ∧
      (d'.toNat : Int) ≤ d.toNat - moved.assets.toNat + m.totals.debtStep := by
  rcases h.assets_le with hassets | ⟨hassets, hless⟩
  · -- the total is not used up, so that the subtraction from it is exact
    obtain ⟨hlow, hhigh⟩ := Totals.debt_bracket hd
    obtain ⟨hlow', hhigh'⟩ := Totals.debt_bracket hd'
    have hpaid := (movementOf_bracket h.price).1
    have hstep := movementOf_le_step h.price
    have hcovered := h.covered
    have htotal : (m'.totals.borrowAssets.toNat : Int) =
        m.totals.borrowAssets.toNat - moved.assets.toNat := by
      have := h.assets
      omega
    have hshares : (m'.totals.borrowShares.toNat : Int) =
        m.totals.borrowShares.toNat - moved.shares.toNat := by
      have := h.shares
      omega
    have haccount : ((m'.account who).borrowShares.toNat : Int) =
        (m.account who).borrowShares.toNat - moved.shares.toNat := by
      have := h.account
      omega
    zify at hlow hhigh hlow' hhigh' hpaid hstep hle hcovered
    rw [htotal, hshares, haccount] at hlow' hhigh'
    have hS : 0 < (m.totals.borrowShares.toNat : Int) + 1000000 := by omega
    have hleft : 0 < (m.totals.borrowShares.toNat : Int) + 1000000 - moved.shares.toNat := by
      omega
    exact ⟨sub_le_of_bracket hS hleft (by omega) hpaid hhigh (by linarith),
      le_add_step_of_bracket hS hleft (by omega) hcovered hpaid hstep hlow (by linarith)⟩
  · obtain ⟨hpaid, hrest⟩ := h.debt_of_used_up hle hd hd' hassets hless
    have hstep := m.totals.debtStep_pos
    omega

end Market

/-! ## Calls -/

namespace Bank

/-- **All of a borrowing that goes through**: interest, then debt for the account, which is healthy
with it, and the assets go from the pool to the receiver. -/
theorem borrow_ends (params : MarketParams) (who : Address) (assets : Amount) (receiver : Address)
    (b : Bank) : ((borrow params who assets receiver).run b).Ends
      (fun _ b' => ∃ m₀ m m' t, b.pool.markets.get? params.id = some m₀ ∧
        m₀.Accrued b.pool.now m ∧ m.Borrowed who assets m' ∧ m.Dealt who m' ∧
        (m'.account who).collateral = (m.account who).collateral ∧
        m'.isHealthy who (b.pool.price params) = .ok true ∧
        TokenBook.Transferred params.loanAsset b.pool.address receiver assets b.tokens t ∧
        b' = { b.booked params m' with tokens := t })
      fun _ _ => True := by
  simp only [borrow, Action.ends_bind, Action.ends_require, Action.ends_read, ends_market,
    ends_compute, ends_book, booked_booked, Action.run_pure, Outcome.ends_done, implies_true,
    and_true]
  intro _
  refine (accrue_spec params b).yields ?_
  -- the market that is read is the one that has just been booked
  rintro _ _ ⟨m₀, m, hm₀, haccrued, rfl⟩ m₁ hm₁
  obtain rfl : m = m₁ := Option.some.inj (get?_booked_self.symm.trans hm₁)
  intro shares hshares borrowAssets hassets borrowShares hborrow owed howed healthy hhealthy htrue _
  rw [htrue] at hhealthy
  refine (move_spec _ _ _ _ _).yields ?_
  rintro _ _ ⟨t, ht, rfl⟩
  have hwritten := m.account_setAccount who who { m.account who with borrowShares := owed }
  rw [if_pos rfl] at hwritten
  have hheld := congrArg (fun a => a.borrowShares.toNat) hwritten
  have hcollateral := congrArg Account.collateral hwritten
  refine ⟨m₀, m, _, t, hm₀, haccrued, ?_, ?_, ?_, hhealthy, ht,
    congrArg (fun b₁ : Bank => { b₁ with tokens := t }) booked_booked⟩
  · exact ⟨⟨shares, Share.ofAssets_up_eq_ok hshares, Amount.add_eq_ok.1 hborrow,
      hheld.trans (Amount.add_eq_ok.1 howed)⟩, Amount.add_eq_ok.1 hassets⟩
  · exact m.dealt_setAccount who _ rfl
  · exact hcollateral

/-- A borrowing that goes through accrues the market and then borrows from it. -/
theorem borrow_spec (params : MarketParams) (who : Address) (assets : Amount) (receiver : Address)
    (b : Bank) : ((borrow params who assets receiver).run b).Ends
      (fun _ b' => ∃ m₀ m m', b.pool.markets.get? params.id = some m₀ ∧
        m₀.Accrued b.pool.now m ∧ m.Borrowed who assets m' ∧
        b'.pool.markets.get? params.id = some m')
      fun _ _ => True := by
  refine (borrow_ends params who assets receiver b).yields ?_
  rintro _ _ ⟨m₀, m, m', t, hm₀, haccrued, hborrowed, -, -, -, -, rfl⟩
  exact ⟨m₀, m, m', hm₀, haccrued, hborrowed, get?_booked_self⟩

/-- **All of a repayment that goes through**: interest, then less debt for the account, whose holder
pays the pool. -/
theorem repay_ends (params : MarketParams) (who : Address) (amount : RepayAmount) (b : Bank) :
    ((repay params who amount).run b).Ends
      (fun moved b' => ∃ m₀ m m' t, b.pool.markets.get? params.id = some m₀ ∧
        m₀.Accrued b.pool.now m ∧ m.Repaid who amount moved m' ∧ m.Dealt who m' ∧
        (m'.account who).collateral = (m.account who).collateral ∧
        TokenBook.Transferred params.loanAsset who b.pool.address moved.assets b.tokens t ∧
        b' = { b.booked params m' with tokens := t })
      fun _ _ => True := by
  simp only [repay, settle, Action.ends_bind, Action.ends_require, Action.ends_read, ends_market,
    ends_compute, ends_book, booked_booked, Action.run_pure, Outcome.ends_done, implies_true,
    and_true]
  refine (accrue_spec params b).yields ?_
  rintro _ _ ⟨m₀, m, hm₀, haccrued, rfl⟩ m₁ hm₁
  obtain rfl : m = m₁ := Option.some.inj (get?_booked_self.symm.trans hm₁)
  intro moved hmoved _ hcovered
  refine (move_spec _ _ _ _ _).yields ?_
  rintro _ _ ⟨t, ht, rfl⟩ borrowShares hborrow
  have hwritten := m.account_setAccount who who
    { m.account who with borrowShares := (m.account who).borrowShares.truncatedSub moved.shares }
  rw [if_pos rfl] at hwritten
  have hheld := congrArg (fun a => a.borrowShares.toNat + moved.shares.toNat) hwritten
  have hcollateral := congrArg Account.collateral hwritten
  refine ⟨m₀, m, _, t, hm₀, haccrued, ?_, ?_, ?_, ht,
    congrArg (fun b₁ : Bank => { b₁ with tokens := t }) booked_booked⟩
  · exact ⟨hmoved, hcovered, rfl, Amount.sub_eq_ok.1 hborrow,
      hheld.trans (Nat.sub_add_cancel hcovered)⟩
  · exact m.dealt_setAccount who _ rfl
  · exact hcollateral

/-- A repayment that goes through accrues the market and then repays to it. -/
theorem repay_spec (params : MarketParams) (who : Address) (amount : RepayAmount) (b : Bank) :
    ((repay params who amount).run b).Ends
      (fun moved b' => ∃ m₀ m m', b.pool.markets.get? params.id = some m₀ ∧
        m₀.Accrued b.pool.now m ∧ m.Repaid who amount moved m' ∧
        b'.pool.markets.get? params.id = some m')
      fun _ _ => True := by
  refine (repay_ends params who amount b).yields ?_
  rintro moved _ ⟨m₀, m, m', t, hm₀, haccrued, hrepaid, -, -, -, rfl⟩
  exact ⟨m₀, m, m', hm₀, haccrued, hrepaid, get?_booked_self⟩

variable {params : MarketParams} {who : Address} {b b' : Bank} {m : Market} {moved : Movement}

/-- Where the market is up to date, a borrowing brings no interest with it. -/
theorem borrow_settled {assets : Amount} {receiver : Address}
    (hm : b.pool.markets.get? params.id = some m) (hsettled : b.pool.now ≤ m.totals.lastUpdate)
    (h : (borrow params who assets receiver).run b = .done moved b') :
    ∃ m' t, m.Borrowed who assets m' ∧ m.Dealt who m' ∧
      TokenBook.Transferred params.loanAsset b.pool.address receiver assets b.tokens t ∧
      b' = { b.booked params m' with tokens := t } := by
  obtain ⟨m₀, m₁, m', t, hm₀, haccrued, hborrowed, hdealt, -, -, htransferred, rfl⟩ :=
    (borrow_ends params who assets receiver b).done h
  obtain rfl : m = m₀ := Option.some.inj (hm.symm.trans hm₀)
  obtain rfl := haccrued.of_settled hsettled
  exact ⟨m', t, hborrowed, hdealt, htransferred, rfl⟩

/-- Nor does a repayment. -/
theorem repay_settled {amount : RepayAmount}
    (hm : b.pool.markets.get? params.id = some m) (hsettled : b.pool.now ≤ m.totals.lastUpdate)
    (h : (repay params who amount).run b = .done moved b') :
    ∃ m' t, m.Repaid who amount moved m' ∧ m.Dealt who m' ∧
      TokenBook.Transferred params.loanAsset who b.pool.address moved.assets b.tokens t ∧
      b' = { b.booked params m' with tokens := t } := by
  obtain ⟨m₀, m₁, m', t, hm₀, haccrued, hrepaid, hdealt, -, htransferred, rfl⟩ :=
    (repay_ends params who amount b).done h
  obtain rfl : m = m₀ := Option.some.inj (hm.symm.trans hm₀)
  obtain rfl := haccrued.of_settled hsettled
  exact ⟨m', t, hrepaid, hdealt, htransferred, rfl⟩

end Bank

end LeveredBasket.Lending

namespace LeveredBasket.Leverage

open Lending (Bank MarketParams)

/-- **Rounding never pays a borrower.** In a world that can come about, let a market be up to date
and let an account owe `d` there. After a borrowing it owes at least as much more as it has
borrowed, after a repayment at most as much less as it has paid; and in both cases it owes at most a
step above that. -/
theorem World.Reachable.debt_within_a_step {w : World} (hw : w.Reachable) {params : MarketParams}
    {m : Lending.Market} (hm : w.chain.pool.markets.get? params.id = some m)
    (hsettled : w.chain.pool.now ≤ m.totals.lastUpdate) {who : Address} {d : Amount}
    (hd : m.debtOf who = .ok d) :
    (∀ assets receiver moved b,
      (Bank.borrow params who assets receiver).run w.chain.toBank = .done moved b →
      ∃ m', b.pool.markets.get? params.id = some m' ∧ ∀ d', m'.debtOf who = .ok d' →
        d.toNat + assets.toNat ≤ d'.toNat ∧
          d'.toNat ≤ d.toNat + assets.toNat + m.totals.debtStep) ∧
    ∀ amount moved b,
      (Bank.repay params who amount).run w.chain.toBank = .done moved b →
      ∃ m', b.pool.markets.get? params.id = some m' ∧ ∀ d', m'.debtOf who = .ok d' →
        (d.toNat : Int) - moved.assets.toNat ≤ d'.toNat ∧
          (d'.toNat : Int) ≤ d.toNat - moved.assets.toNat + m.totals.debtStep := by
  have hle := (Lending.balanced_of_reachable hw params.id m hm).borrow_le who
  constructor
  · intro assets receiver moved b hdone
    obtain ⟨m₀, m₁, m', hm₀, haccrued, hborrowed, hm'⟩ :=
      (Bank.borrow_spec params who assets receiver w.chain.toBank).done hdone
    obtain rfl : m = m₀ := Option.some.inj (hm.symm.trans hm₀)
    obtain rfl := haccrued.of_settled hsettled
    exact ⟨m', hm', fun d' hd' => hborrowed.debt hle hd hd'⟩
  · intro amount moved b hdone
    obtain ⟨m₀, m₁, m', hm₀, haccrued, hrepaid, hm'⟩ :=
      (Bank.repay_spec params who amount w.chain.toBank).done hdone
    obtain rfl : m = m₀ := Option.some.inj (hm.symm.trans hm₀)
    obtain rfl := haccrued.of_settled hsettled
    exact ⟨m', hm', fun d' hd' => hrepaid.debt hle hd hd'⟩

open Deployment in
/-- So it is for the basket of the reference deployment once it is levered and could repay, whether
it borrows as much again or repays. -/
theorem World.debt_within_a_step_of_levering : ∃ w m d borrowed b repaid b',
    World.runs paying (start .usual) = some w ∧
    w.chain.pool.markets.get? params.id = some m ∧ m.debtOf Deployment.basket = .ok d ∧
    (Bank.borrow params Deployment.basket thousandUsdc manager).run w.chain.toBank =
      .done borrowed b ∧
    (∃ m', b.pool.markets.get? params.id = some m' ∧ ∀ d',
      m'.debtOf Deployment.basket = .ok d' → d.toNat + thousandUsdc.toNat ≤ d'.toNat ∧
        d'.toNat ≤ d.toNat + thousandUsdc.toNat + m.totals.debtStep) ∧
    (Bank.repay params Deployment.basket (.assets thousandUsdc)).run w.chain.toBank =
      .done repaid b' ∧
    ∃ m', b'.pool.markets.get? params.id = some m' ∧ ∀ d',
      m'.debtOf Deployment.basket = .ok d' → (d.toNat : Int) - repaid.assets.toNat ≤ d'.toNat ∧
        (d'.toNat : Int) ≤ d.toNat - repaid.assets.toNat + m.totals.debtStep := by
  have hcalls : ((World.runs paying (start .usual)).bind fun w =>
      (w.chain.pool.markets.get? params.id).map fun m =>
        decide (w.chain.pool.now ≤ m.totals.lastUpdate) &&
          (m.debtOf Deployment.basket).toOption.isSome &&
          ((Bank.borrow params Deployment.basket thousandUsdc manager).run
            w.chain.toBank).isDone &&
          ((Bank.repay params Deployment.basket (.assets thousandUsdc)).run
            w.chain.toBank).isDone) = some true := by decide +kernel
  obtain ⟨w, hw, hcalls⟩ := Option.bind_eq_some_iff.1 hcalls
  obtain ⟨m, hm, hcalls⟩ := Option.map_eq_some_iff.1 hcalls
  simp only [Bool.and_eq_true, decide_eq_true_eq] at hcalls
  obtain ⟨⟨⟨hsettled, howes⟩, hborrows⟩, hrepays⟩ := hcalls
  obtain ⟨borrowed, b, hborrow⟩ := Outcome.exists_of_isDone hborrows
  obtain ⟨repaid, b', hrepay⟩ := Outcome.exists_of_isDone hrepays
  cases hd : m.debtOf Deployment.basket with
  | error e =>
    rw [hd] at howes
    cases howes
  | ok d =>
    have hreachable : w.Reachable := ⟨pool, router, feeRecipient, holder, owner, .usual, _, hw⟩
    obtain ⟨hborrowing, hrepaying⟩ := World.Reachable.debt_within_a_step hreachable hm hsettled hd
    exact ⟨w, m, d, borrowed, b, repaid, b', hw, hm, hd, hborrow,
      hborrowing thousandUsdc manager borrowed b hborrow, hrepay,
      hrepaying (.assets thousandUsdc) repaid b' hrepay⟩

end LeveredBasket.Leverage
