/-
Issuing and redeeming move no debt between holders.

With the settings asking for it, a component hook
(`LeverageModule::component_issue_hook`, `LeverageModule::component_redeem_hook`) ends
by writing the debt unit for the supply to come
(`LeverageModule::sync_debt_for_supply`). When tokens are issued, the debt grows by what
they owe at the old unit, rounded down; when they are redeemed, it falls by what they
owe, rounded up. The market rounds a debt by less than one asset more, as long as a
share stands for no more than one. All of that, over a supply of at least one whole
token, moves the unit by at most one (`World.Reachable.issuance_keeps_unit`). The bounds
on units rest on these three roundings alone (`unit_le_of_issue`, `le_unit_of_issue`,
`unit_le_of_redeem`); what the two hooks do to the debt is shown for each by itself
(`debt_of_issue`, `debt_of_repayCapped`).
-/
import LeveredBasket.Proofs.Leverage.Redemption

set_option autoImplicit false

namespace LeveredBasket.Leverage

/-! ## Units over a changed supply

A debt `d` over a supply `s` has the unit `d * W ⌈/⌉ s`, and `q` tokens are issued or redeemed. -/

section Units

variable {W d d' s q : Nat}

/-- Issuing makes the unit at most one larger. -/
theorem unit_le_of_issue (hs : 0 < s) (hsupply : W ≤ s + q)
    (hborrow : d' * W ≤ d * W + (d * W) ⌈/⌉ s * q + W) :
    (d' * W) ⌈/⌉ (s + q) ≤ (d * W) ⌈/⌉ s + 1 := by
  have hunit := le_ceilDiv_mul (d * W) hs
  have hspread : (s + q) * ((d * W) ⌈/⌉ s + 1) =
      (d * W) ⌈/⌉ s * s + (d * W) ⌈/⌉ s * q + (s + q) := by ring
  exact (ceilDiv_le_iff_le_mul (by omega)).2 (by omega)

/-- It makes it at most one smaller. -/
theorem le_unit_of_issue (hs : 0 < s) (hsupply : W ≤ s + q)
    (hborrow : d * W + (d * W) ⌈/⌉ s * q < d' * W + W) :
    (d * W) ⌈/⌉ s ≤ (d' * W) ⌈/⌉ (s + q) + 1 := by
  have hunit := ceilDiv_mul_lt (d * W) hs
  have hunit' := le_ceilDiv_mul (d' * W) (Nat.add_pos_left hs q)
  have hspread : (d * W) ⌈/⌉ s * (s + q) = (d * W) ⌈/⌉ s * s + (d * W) ⌈/⌉ s * q := by ring
  -- the old unit loses less than one over the old supply, and the borrowing less than one token's
  have hlt : (d * W) ⌈/⌉ s * (s + q) < ((d' * W) ⌈/⌉ (s + q) + 2) * (s + q) := by
    rw [Nat.add_mul]
    omega
  have hlt' : (d * W) ⌈/⌉ s < (d' * W) ⌈/⌉ (s + q) + 2 := Nat.lt_of_mul_lt_mul_right hlt
  omega

/-- Redeeming makes the unit at most one larger, whether a part or all of the debt is repaid. -/
theorem unit_le_of_redeem (hW : 0 < W) (hsupply : W + q ≤ s)
    (hrepay : d' * W + (d * W) ⌈/⌉ s * q ≤ d * W + W ∨ d' = 0) :
    (d' * W) ⌈/⌉ (s - q) ≤ (d * W) ⌈/⌉ s + 1 := by
  obtain ⟨left, rfl⟩ := Nat.exists_eq_add_of_le' (show q ≤ s by omega)
  have hunit := le_ceilDiv_mul (d * W) (show 0 < left + q by omega)
  have hspread : left * ((d * W) ⌈/⌉ (left + q) + 1) + (d * W) ⌈/⌉ (left + q) * q =
      (d * W) ⌈/⌉ (left + q) * (left + q) + left := by ring
  rw [Nat.add_sub_cancel]
  refine (ceilDiv_le_iff_le_mul (by omega)).2 ?_
  rcases hrepay with hrepay | rfl
  · omega
  · omega

/-- What is borrowed is what the tokens owe at the unit `u`, rounded down. -/
theorem numerator_of_issue {u borrowed : Nat} (hW : 0 < W) (hborrowed : borrowed = u * q / W)
    (hlow : d + borrowed ≤ d') (hhigh : d' ≤ d + borrowed + 1) :
    d' * W ≤ d * W + u * q + W ∧ d * W + u * q < d' * W + W := by
  have hfloor : borrowed * W ≤ u * q := hborrowed ▸ Nat.div_mul_le_self (u * q) W
  have hfloor' : u * q < borrowed * W + W := hborrowed ▸ Nat.lt_div_mul_add hW
  have hlow' := Nat.mul_le_mul_right W hlow
  have hhigh' := Nat.mul_le_mul_right W hhigh
  rw [Nat.add_mul] at hlow'
  rw [Nat.add_mul, Nat.add_mul, Nat.one_mul] at hhigh'
  omega

/-- What is repaid is what they owe, rounded up. -/
theorem numerator_of_redeem {u owed : Nat} (hW : 0 < W) (howed : owed = (u * q) ⌈/⌉ W)
    (hrepaid : d' + owed ≤ d + 1) : d' * W + u * q ≤ d * W + W := by
  have hceil : u * q ≤ owed * W := howed ▸ le_ceilDiv_mul (u * q) hW
  have hrepaid' := Nat.mul_le_mul_right W hrepaid
  rw [Nat.add_mul, Nat.add_mul, Nat.one_mul] at hrepaid'
  omega

end Units

/-! ## The unit at the end of a hook -/

namespace Operation

open Lending (Bank Market)

variable {d : Desk} {basket : Address} {r : Record} {adjust : Amount → Except MathError Amount}
variable {c c' : Chain} {m : Market} {b : Basket}

/-- **What a component hook leaves**: the market as it was before the end of the hook, and the debt
unit in line with the debt there, for the supply to come. Collateral units stay as they are. -/
theorem HookEnded.unit (h : HookEnded d basket r adjust c c')
    (hsync : d.settings.syncOnHook = true) (hmarket : r.market = r.params.id)
    (hdistinct : r.params.collateralAsset ≠ r.params.loanAsset) (htidy : c.Tidy)
    (hm : c.pool.markets.get? r.params.id = some m)
    (hsettled : c.pool.now ≤ m.totals.lastUpdate) (hb : c.baskets.get? basket = some b)
    (hadjust : adjust b.supply ≠ .ok 0) :
    ∃ supply debt b', adjust b.supply = .ok supply ∧
      c'.pool.markets.get? r.params.id = some m ∧ m.debtOf basket = .ok debt ∧
      c'.baskets.get? basket = some b' ∧
      (b'.externalUnit r.params.loanAsset d.address).value.toInt =
        -((debt.toNat * Amount.one.toNat) ⌈/⌉ supply.toNat : Nat) ∧
      b'.externalUnit r.params.collateralAsset d.address =
        b.externalUnit r.params.collateralAsset d.address := by
  rw [HookEnded, if_pos hsync] at h
  obtain ⟨b₁, supply, hb₁, hsupply, ⟨rfl, -⟩ | ⟨m₁, bal, unit, hsynced⟩⟩ := h
  · obtain rfl : b = b₁ := Option.some.inj (hb.symm.trans hb₁)
    exact absurd hsupply hadjust
  · obtain rfl : b = b₁ := Option.some.inj (hb.symm.trans hb₁)
    obtain ⟨m₀, hm₀, haccrued⟩ := hsynced.accrued
    obtain rfl : m = m₀ := Option.some.inj (hm.symm.trans hm₀)
    -- the market is up to date, so interest leaves the chain as it is
    obtain rfl := haccrued.of_settled hsettled
    have hbalances := hsynced.balances
    have hwrote := hsynced.wrote
    rw [Bank.booked_self hm] at hbalances hwrote
    obtain ⟨b', hb', -, hexternals, -⟩ := hwrote.external htidy hb
    have hpool : c'.pool = c.pool := by
      obtain ⟨b₀, ps, -, -, rfl⟩ := hwrote
      rfl
    refine ⟨supply, bal.borrow, b', hsupply, hpool ▸ hm,
      (Record.balances_market hmarket hm hbalances).1, hb', ?_, ?_⟩
    · rw [hexternals, if_pos ⟨rfl, rfl⟩]
      exact (PositionUnit.ofDebt_eq_ok hsynced.debt).2
    · rw [hexternals, if_neg fun hsame => hdistinct hsame.1]

/-! ## Issuing (`LeverageModule::component_issue_hook`) -/

/-- **An issuance** borrows what the tokens owe at the unit on the ledger, if that is anything. -/
theorem issueHook_yields (caller basket : Address) (quantity : Amount) (component : Address)
    (d : Desk) (s : Session) : ((issueHook caller basket quantity component false d).run s).Yields
      fun borrowed s' => ∃ r b s₁, s.records.get? basket = some r ∧
        component = r.params.loanAsset ∧ s.chain.baskets.get? basket = some b ∧
        (b.externalUnit r.params.loanAsset d.address).notionalSize quantity = .ok borrowed ∧
        (borrowed = 0 ∧ s₁ = s ∨ ∃ moved bank,
          (Bank.borrow r.params basket borrowed basket).run s.chain.toBank = .done moved bank ∧
          s₁ = s.withBank bank) ∧
        HookEnded d basket r (Amount.add · quantity) s₁.chain s'.chain := by
  rw [issueHook]
  refine Action.yields_bind (requireIssuer_yields caller basket s) ?_
  rintro _ _ rfl
  refine Action.yields_bind (recordOf_yields d basket _) ?_
  rintro r _ ⟨rfl, hr⟩
  rw [if_neg (by simp)]
  refine Action.yields_bind (debtUnit_yields d r basket component _) ?_
  rintro unit _ ⟨rfl, hcomponent, b, hb, rfl, -⟩
  refine Action.yields_bind (compute_yields _ _) ?_
  rintro notional s ⟨hnotional, rfl⟩
  rw [Outcome.Yields, Action.ends_ite]
  constructor
  · intro hnone
    refine (hookEnd_yields d basket r (Amount.add · quantity) _ notional s).yields ?_
    rintro _ s' ⟨rfl, hended⟩
    exact ⟨r, b, s, hr, hcomponent, hb, hnotional, .inl ⟨hnone, rfl⟩, hended⟩
  · intro _
    refine Action.yields_bind (lending_yields _ s) ?_
    rintro moved _ ⟨bank, hborrow, rfl⟩
    refine (hookEnd_yields d basket r (Amount.add · quantity) _ notional _).yields ?_
    rintro _ s' ⟨rfl, hended⟩
    exact ⟨r, b, _, hr, hcomponent, hb, hnotional, .inr ⟨moved, bank, hborrow, rfl⟩, hended⟩

end Operation

/-! ## Debts before the end of a hook -/

section Debts

open Lending (Bank Market MarketParams)

variable {params : MarketParams} {basket : Address} {bank bank' : Bank} {m : Market} {d : Amount}

/-- Where a share stands for no more than an asset, a debt is rounded by at most one. -/
theorem debtStep_le_one {t : Lending.Totals}
    (h : t.borrowAssets.toNat + 1 ≤ t.borrowShares.toNat + 1000000) : t.debtStep ≤ 1 := by
  unfold Lending.Totals.debtStep
  have hpos : 0 < t.borrowShares.toNat + 1000000 := Nat.succ_pos _
  rw [ceilDiv_le_iff_le_mul hpos, Nat.mul_one]
  exact h

/-- A borrowing from a market that is up to date leaves it up to date, with the debt larger by what
was borrowed, up to one. -/
theorem debt_of_borrow (hm : bank.pool.markets.get? params.id = some m)
    (hsettled : bank.pool.now ≤ m.totals.lastUpdate) (hbalanced : m.Balanced)
    (hstep : m.totals.debtStep ≤ 1) (hd : m.debtOf basket = .ok d) {assets : Amount}
    {receiver : Address} {moved : Lending.Movement}
    (h : (Bank.borrow params basket assets receiver).run bank = .done moved bank') :
    ∃ m', bank'.pool.markets.get? params.id = some m' ∧
      bank'.pool.now ≤ m'.totals.lastUpdate ∧ ∀ d', m'.debtOf basket = .ok d' →
        d.toNat + assets.toNat ≤ d'.toNat ∧ d'.toNat ≤ d.toNat + assets.toNat + 1 := by
  obtain ⟨m', t, hborrowed, hdealt, -, rfl⟩ := Bank.borrow_settled hm hsettled h
  refine ⟨m', Bank.get?_booked_self, ?_, fun d' hd' => ?_⟩
  · rw [hdealt.lastUpdate]
    exact hsettled
  · have hdebt := hborrowed.debt (hbalanced.borrow_le basket) hd hd'
    omega

/-- **What an issuance borrows**, if it is anything, comes on top of the debt, up to one. -/
theorem debt_of_issue {s s' : Session} {borrowed : Amount}
    (hm : s.chain.pool.markets.get? params.id = some m)
    (hsettled : s.chain.pool.now ≤ m.totals.lastUpdate) (hbalanced : m.Balanced)
    (hstep : m.totals.debtStep ≤ 1) (hd : m.debtOf basket = .ok d)
    (h : borrowed = 0 ∧ s' = s ∨ ∃ moved bank,
      (Bank.borrow params basket borrowed basket).run s.chain.toBank = .done moved bank ∧
      s' = s.withBank bank) :
    s'.chain.baskets = s.chain.baskets ∧ ∃ m', s'.chain.pool.markets.get? params.id = some m' ∧
      s'.chain.pool.now ≤ m'.totals.lastUpdate ∧ ∀ d', m'.debtOf basket = .ok d' →
        d.toNat + borrowed.toNat ≤ d'.toNat ∧ d'.toNat ≤ d.toNat + borrowed.toNat + 1 := by
  rcases h with ⟨rfl, rfl⟩ | ⟨moved, bank, hborrow, rfl⟩
  · refine ⟨rfl, m, hm, hsettled, fun d' hd' => ?_⟩
    obtain rfl : d = d' := Except.ok.inj (hd.symm.trans hd')
    exact ⟨Nat.le_refl _, Nat.le_succ _⟩
  · exact ⟨rfl, debt_of_borrow hm hsettled hbalanced hstep hd hborrow⟩

/-- A repayment leaves it up to date too, with the debt smaller by what was repaid, up to one. -/
theorem debt_of_repay (hm : bank.pool.markets.get? params.id = some m)
    (hsettled : bank.pool.now ≤ m.totals.lastUpdate) (hbalanced : m.Balanced)
    (hstep : m.totals.debtStep ≤ 1) (hd : m.debtOf basket = .ok d) {amount : Lending.RepayAmount}
    {moved : Lending.Movement}
    (h : (Bank.repay params basket amount).run bank = .done moved bank') :
    ∃ m', bank'.pool.markets.get? params.id = some m' ∧
      bank'.pool.now ≤ m'.totals.lastUpdate ∧ m.Repaid basket amount moved m' ∧
      ∀ d', m'.debtOf basket = .ok d' → d'.toNat + moved.assets.toNat ≤ d.toNat + 1 := by
  obtain ⟨m', t, hrepaid, hdealt, -, rfl⟩ := Bank.repay_settled hm hsettled h
  refine ⟨m', Bank.get?_booked_self, ?_, hrepaid, fun d' hd' => ?_⟩
  · rw [hdealt.lastUpdate]
    exact hsettled
  · have hdebt := (hrepaid.debt (hbalanced.borrow_le basket) hd hd').2
    omega

/-- An account without borrow shares owes nothing. -/
theorem debt_of_no_shares (hnone : (m.account basket).borrowShares.toNat = 0)
    (hd : m.debtOf basket = .ok d) : d.toNat = 0 := by
  have hworth := Share.toAssets_up_eq_ok hd
  rw [hnone, Nat.zero_mul, zero_ceilDiv] at hworth
  exact hworth

/-- **A capped repayment** in a market that is up to date takes what it may off the debt, up to one,
or all of it. -/
theorem debt_of_repayCapped {r : Record} {s s' : Session} {available repaid : Amount}
    (hmarket : r.market = r.params.id) (hm : s.chain.pool.markets.get? r.params.id = some m)
    (hsettled : s.chain.pool.now ≤ m.totals.lastUpdate) (hbalanced : m.Balanced)
    (hstep : m.totals.debtStep ≤ 1) (hd : m.debtOf basket = .ok d)
    (h : (Operation.repayCapped r basket available).run s = .done repaid s') :
    s'.chain.baskets = s.chain.baskets ∧ ∃ m', s'.chain.pool.markets.get? r.params.id = some m' ∧
      s'.chain.pool.now ≤ m'.totals.lastUpdate ∧ ∀ d', m'.debtOf basket = .ok d' →
        d'.toNat + available.toNat ≤ d.toNat + 1 ∨ d'.toNat = 0 := by
  obtain ⟨bal, hbal, ⟨hnone, -, rfl⟩ | ⟨-, moved, b, hrepay, -, rfl⟩⟩ :=
    (Operation.repayCapped_yields r basket available s).done h
  · refine ⟨rfl, m, hm, hsettled, fun d' hd' => ?_⟩
    obtain rfl : d = d' := Except.ok.inj (hd.symm.trans hd')
    rcases hnone with hshares | rfl
    · right
      refine debt_of_no_shares ?_ hd
      rw [← (Record.balances_market hmarket hm hbal).2, hshares]
      rfl
    · exact .inl (Nat.le_succ _)
  · obtain ⟨m', hm', hsettled', hrepaid, hdebt⟩ :=
      debt_of_repay hm hsettled hbalanced hstep hd hrepay
    refine ⟨rfl, m', hm', hsettled', fun d' hd' => ?_⟩
    have hprice := hrepaid.price
    unfold Operation.repayAmount at hprice
    split at hprice
    case isTrue =>
      -- all shares are repaid, so nothing is left to owe
      right
      refine debt_of_no_shares ?_ hd'
      have hshares := hrepaid.account
      rw [(Lending.Bank.movementOf_shares hprice).1, (Record.balances_market hmarket hm hbal).2]
        at hshares
      omega
    case isFalse =>
      left
      have hle := hdebt d' hd'
      rw [(Lending.Bank.movementOf_assets hprice).1] at hle
      exact hle

end Debts

/-! ## Issuing and redeeming keep the unit -/

/-- **The debt unit is for this supply**: it is what the basket owes, over it, rounded away from
zero. -/
def World.DebtUnitFor (w : World) (basket : Address) (r : Record) (supply : Nat) (b : Basket) :
    Prop :=
  ∃ m d, w.chain.pool.markets.get? r.params.id = some m ∧ m.debtOf basket = .ok d ∧
    w.chain.baskets.get? basket = some b ∧
    (b.externalUnit r.params.loanAsset w.desk.address).value.toInt =
      -((d.toNat * Amount.one.toNat) ⌈/⌉ supply : Nat)

/-- The magnitude of a unit that is minus a number is that number. -/
theorem natAbs_of_eq_neg {u : Int} {n : Nat} (h : u = -(n : Nat)) : u.natAbs = n := by
  rw [h, Int.natAbs_neg, Int.natAbs_natCast]

section Owed

variable {unit : PositionUnit} {n : Nat} {quantity size : Amount}

/-- What a quantity owes at such a unit, rounded down. -/
theorem notionalSize_of_neg (hunit : unit.value.toInt = -(n : Nat))
    (h : unit.notionalSize quantity = .ok size) :
    size.toNat = n * quantity.toNat / Amount.one.toNat := by
  have hmagnitude : unit.magnitude.toNat = n := natAbs_of_eq_neg hunit
  rw [PositionUnit.notionalSize_eq_ok h, hmagnitude]

/-- The same, rounded up. -/
theorem notionalSizeUp_of_neg (hunit : unit.value.toInt = -(n : Nat))
    (h : unit.notionalSizeUp quantity = .ok size) :
    size.toNat = (n * quantity.toNat) ⌈/⌉ Amount.one.toNat := by
  have hmagnitude : unit.magnitude.toNat = n := natAbs_of_eq_neg hunit
  rw [PositionUnit.notionalSizeUp_eq_ok h, hmagnitude]

end Owed

section Hooks

variable {w w' : World} {basket caller component : Address} {r : Record} {m : Lending.Market}
variable {b : Basket} {d quantity : Amount}

variable (hw : w.Reachable) (hsync : w.desk.settings.syncOnHook = true)
  (hr : w.desk.records.get? basket = some r)
  (hm : w.chain.pool.markets.get? r.params.id = some m)
  (hsettled : w.chain.pool.now ≤ m.totals.lastUpdate)
  (hprice : m.totals.borrowAssets.toNat + 1 ≤ m.totals.borrowShares.toNat + 1000000)
  (hb : w.chain.baskets.get? basket = some b) (hd : m.debtOf basket = .ok d)
  (hunit : (b.externalUnit r.params.loanAsset w.desk.address).value.toInt =
    -((d.toNat * Amount.one.toNat) ⌈/⌉ b.supply.toNat : Nat))

include hw hsync hr hm hsettled hprice hb hd hunit

/-- **An issuance leaves the unit for the larger supply**, and changes it by at most one. -/
theorem World.Reachable.unit_of_issueHook {borrowed : Amount} (hsupply : 0 < b.supply.toNat)
    (hlarge : Amount.one.toNat ≤ b.supply.toNat + quantity.toNat)
    (h : (World.issueHook caller basket quantity component false).run w = .done borrowed w') :
    ∃ b', w'.DebtUnitFor basket r (b.supply.toNat + quantity.toNat) b' ∧
      (b'.externalUnit r.params.loanAsset w.desk.address).value.toInt.natAbs ≤
        (b.externalUnit r.params.loanAsset w.desk.address).value.toInt.natAbs + 1 ∧
      (b.externalUnit r.params.loanAsset w.desk.address).value.toInt.natAbs ≤
        (b'.externalUnit r.params.loanAsset w.desk.address).value.toInt.natAbs + 1 ∧
      b'.externalUnit r.params.collateralAsset w.desk.address =
        b.externalUnit r.params.collateralAsset w.desk.address := by
  have hsound := hw.orderly.records basket r hr
  obtain ⟨s, log, hrun, rfl⟩ := World.operate_yields h
  obtain ⟨r₁, b₁, s₁, hr₁, -, hb₁, hborrowed, hborrow, hended⟩ :=
    (Operation.issueHook_yields caller basket quantity component w.desk _).done hrun
  obtain rfl : r = r₁ := Option.some.inj (hr.symm.trans hr₁)
  obtain rfl : b = b₁ := Option.some.inj (hb.symm.trans hb₁)
  -- the debt grows by what the tokens owe at the old unit, up to one
  obtain ⟨hbaskets, m', hm', hsettled', hdebt⟩ := debt_of_issue hm hsettled
    (Lending.balanced_of_reachable hw _ m hm) (debtStep_le_one hprice) hd hborrow
  have htidy : s₁.chain.Tidy := fun a b' hb' => hw.orderly.tidy a b' (hbaskets ▸ hb')
  have hsome : b.supply.add quantity ≠ .ok 0 := by
    intro hnone
    have hsum : 0 = b.supply.toNat + quantity.toNat := Amount.add_eq_ok.1 hnone
    omega
  obtain ⟨supply, d', b', hsum, hm'', hd', hb', hunit', hcollateral⟩ :=
    hended.unit hsync hsound.market hsound.distinct htidy hm' hsettled' (hbaskets ▸ hb) hsome
  rw [Amount.add_eq_ok.1 hsum] at hunit'
  obtain ⟨hlow, hhigh⟩ := hdebt d' hd'
  obtain ⟨hupper, hlower⟩ :=
    numerator_of_issue (by decide) (notionalSize_of_neg hunit hborrowed) hlow hhigh
  refine ⟨b', ⟨m', d', hm'', hd', hb', hunit'⟩, ?_, ?_, hcollateral⟩
  · rw [natAbs_of_eq_neg hunit, natAbs_of_eq_neg hunit']
    exact unit_le_of_issue hsupply hlarge hupper
  · rw [natAbs_of_eq_neg hunit, natAbs_of_eq_neg hunit']
    exact le_unit_of_issue hsupply hlarge hlower

/-- **A redemption leaves the unit for the smaller supply**, and makes it at most one larger. -/
theorem World.Reachable.unit_of_redeemHook {repaid : Amount}
    (hlarge : Amount.one.toNat + quantity.toNat ≤ b.supply.toNat)
    (h : (World.redeemHook caller basket quantity component false).run w = .done repaid w') :
    ∃ b', w'.DebtUnitFor basket r (b.supply.toNat - quantity.toNat) b' ∧
      (b'.externalUnit r.params.loanAsset w.desk.address).value.toInt.natAbs ≤
        (b.externalUnit r.params.loanAsset w.desk.address).value.toInt.natAbs + 1 ∧
      b'.externalUnit r.params.collateralAsset w.desk.address =
        b.externalUnit r.params.collateralAsset w.desk.address := by
  have hsound := hw.orderly.records basket r hr
  have hone : 0 < Amount.one.toNat := by decide
  obtain ⟨s, log, hrun, rfl⟩ := World.operate_yields h
  obtain ⟨r₁, b₁, owed, s₁, hr₁, -, hb₁, -, howed, hrepaid, hended⟩ :=
    (Operation.redeemHook_yields caller basket quantity component w.desk _).done hrun
  obtain rfl : r = r₁ := Option.some.inj (hr.symm.trans hr₁)
  obtain rfl : b = b₁ := Option.some.inj (hb.symm.trans hb₁)
  -- the debt falls by what the tokens owe at the old unit, up to one, or is gone
  obtain ⟨hbaskets, m', hm', hsettled', hdebt⟩ := debt_of_repayCapped hsound.market hm hsettled
    (Lending.balanced_of_reachable hw _ m hm) (debtStep_le_one hprice) hd hrepaid
  have htidy : s₁.chain.Tidy := fun a b' hb' => hw.orderly.tidy a b' (hbaskets ▸ hb')
  have hsome : b.supply.sub quantity ≠ .ok 0 := by
    intro hnone
    have hdifference : 0 + quantity.toNat = b.supply.toNat := Amount.sub_eq_ok.1 hnone
    omega
  obtain ⟨supply, d', b', hdifference, hm'', hd', hb', hunit', hcollateral⟩ :=
    hended.unit hsync hsound.market hsound.distinct htidy hm' hsettled' (hbaskets ▸ hb) hsome
  have hleft : supply.toNat = b.supply.toNat - quantity.toNat :=
    Nat.eq_sub_of_add_eq (Amount.sub_eq_ok.1 hdifference)
  rw [hleft] at hunit'
  refine ⟨b', ⟨m', d', hm'', hd', hb', hunit'⟩, ?_, hcollateral⟩
  rw [natAbs_of_eq_neg hunit, natAbs_of_eq_neg hunit']
  refine unit_le_of_redeem hone hlarge ?_
  rcases hdebt d' hd' with hpart | hall
  · exact .inl (numerator_of_redeem hone (notionalSizeUp_of_neg hunit howed) hpart)
  · exact .inr hall

end Hooks

/-- **Issuing and redeeming move no debt between holders.** In a world that can come about, let the
settings ask for the unit to be brought up to date, the market be up to date, a share stand for no
more than an asset, and the debt unit be what the basket owes over its supply. A hook that goes
through leaves the debt unit for the supply to come. If that is at least one token, an issuance
changes the unit by at most one, and a redemption makes it at most one larger. Neither touches the
collateral unit. -/
theorem World.Reachable.issuance_keeps_unit {w : World} (hw : w.Reachable)
    (hsync : w.desk.settings.syncOnHook = true) {basket : Address} {r : Record}
    {m : Lending.Market} {b : Basket} {d : Amount}
    (hr : w.desk.records.get? basket = some r)
    (hm : w.chain.pool.markets.get? r.params.id = some m)
    (hsettled : w.chain.pool.now ≤ m.totals.lastUpdate)
    (hprice : m.totals.borrowAssets.toNat + 1 ≤ m.totals.borrowShares.toNat + 1000000)
    (hb : w.chain.baskets.get? basket = some b) (hsupply : 0 < b.supply.toNat)
    (hd : m.debtOf basket = .ok d)
    (hunit : (b.externalUnit r.params.loanAsset w.desk.address).value.toInt =
      -((d.toNat * Amount.one.toNat) ⌈/⌉ b.supply.toNat : Nat))
    (caller component : Address) (quantity : Amount) :
    (∀ borrowed w', Amount.one.toNat ≤ b.supply.toNat + quantity.toNat →
      (World.issueHook caller basket quantity component false).run w = .done borrowed w' →
      ∃ b', w'.DebtUnitFor basket r (b.supply.toNat + quantity.toNat) b' ∧
        (b'.externalUnit r.params.loanAsset w.desk.address).value.toInt.natAbs ≤
          (b.externalUnit r.params.loanAsset w.desk.address).value.toInt.natAbs + 1 ∧
        (b.externalUnit r.params.loanAsset w.desk.address).value.toInt.natAbs ≤
          (b'.externalUnit r.params.loanAsset w.desk.address).value.toInt.natAbs + 1 ∧
        b'.externalUnit r.params.collateralAsset w.desk.address =
          b.externalUnit r.params.collateralAsset w.desk.address) ∧
    ∀ repaid w', Amount.one.toNat + quantity.toNat ≤ b.supply.toNat →
      (World.redeemHook caller basket quantity component false).run w = .done repaid w' →
      ∃ b', w'.DebtUnitFor basket r (b.supply.toNat - quantity.toNat) b' ∧
        (b'.externalUnit r.params.loanAsset w.desk.address).value.toInt.natAbs ≤
          (b.externalUnit r.params.loanAsset w.desk.address).value.toInt.natAbs + 1 ∧
        b'.externalUnit r.params.collateralAsset w.desk.address =
          b.externalUnit r.params.collateralAsset w.desk.address :=
  ⟨fun _ _ hlarge h =>
      hw.unit_of_issueHook hsync hr hm hsettled hprice hb hd hunit hsupply hlarge h,
    fun _ _ hlarge h => hw.unit_of_redeemHook hsync hr hm hsettled hprice hb hd hunit hlarge h⟩

open Deployment in
/-- The requests after which the debt of a levered basket does not come out even over its supply. -/
def spreading : List Request :=
  paying ++ [.chain (.basket Deployment.basket (.setSupply (number 3_000_000_000_000_000_000))),
    .desk (.basket Deployment.basket .sync)]

open Deployment in
/-- So it is for such a basket, and a quantity that does not come out even either. -/
theorem World.issuance_keeps_unit_of_spreading : ∃ w r b quantity borrowed w₁ repaid w₂,
    World.runs spreading (start .production) = some w ∧
    w.desk.records.get? Deployment.basket = some r ∧
    w.chain.baskets.get? Deployment.basket = some b ∧
    quantity.toNat = 700_000_000_000_000_001 ∧
    (World.issueHook orchestrator Deployment.basket quantity usdc false).run w =
      .done borrowed w₁ ∧
    (∃ b', w₁.DebtUnitFor Deployment.basket r (b.supply.toNat + quantity.toNat) b' ∧
      (b'.externalUnit r.params.loanAsset w.desk.address).value.toInt.natAbs ≤
        (b.externalUnit r.params.loanAsset w.desk.address).value.toInt.natAbs + 1 ∧
      (b.externalUnit r.params.loanAsset w.desk.address).value.toInt.natAbs ≤
        (b'.externalUnit r.params.loanAsset w.desk.address).value.toInt.natAbs + 1 ∧
      b'.externalUnit r.params.collateralAsset w.desk.address =
        b.externalUnit r.params.collateralAsset w.desk.address) ∧
    (World.redeemHook orchestrator Deployment.basket quantity usdc false).run w =
      .done repaid w₂ ∧
    ∃ b', w₂.DebtUnitFor Deployment.basket r (b.supply.toNat - quantity.toNat) b' ∧
      (b'.externalUnit r.params.loanAsset w.desk.address).value.toInt.natAbs ≤
        (b.externalUnit r.params.loanAsset w.desk.address).value.toInt.natAbs + 1 ∧
      b'.externalUnit r.params.collateralAsset w.desk.address =
        b.externalUnit r.params.collateralAsset w.desk.address := by
  have hhooks : ((World.runs spreading (start .production)).bind fun w =>
      (w.desk.records.get? Deployment.basket).bind fun r =>
      (w.chain.pool.markets.get? r.params.id).bind fun m =>
      (w.chain.baskets.get? Deployment.basket).bind fun b =>
      (m.debtOf Deployment.basket).toOption.map fun d =>
        w.desk.settings.syncOnHook &&
          decide (w.chain.pool.now ≤ m.totals.lastUpdate) &&
          decide (m.totals.borrowAssets.toNat + 1 ≤ m.totals.borrowShares.toNat + 1000000) &&
          decide (1_700_000_000_000_000_001 ≤ b.supply.toNat) &&
          decide ((b.externalUnit r.params.loanAsset w.desk.address).value.toInt =
            -(((d.toNat * Amount.one.toNat + b.supply.toNat - 1) / b.supply.toNat : Nat) : Int)) &&
          ((World.issueHook orchestrator Deployment.basket (number 700_000_000_000_000_001) usdc
            false).run w).isDone &&
          ((World.redeemHook orchestrator Deployment.basket (number 700_000_000_000_000_001) usdc
            false).run w).isDone) = some true := by decide +kernel
  obtain ⟨w, hw, hhooks⟩ := Option.bind_eq_some_iff.1 hhooks
  obtain ⟨r, hr, hhooks⟩ := Option.bind_eq_some_iff.1 hhooks
  obtain ⟨m, hm, hhooks⟩ := Option.bind_eq_some_iff.1 hhooks
  obtain ⟨b, hb, hhooks⟩ := Option.bind_eq_some_iff.1 hhooks
  obtain ⟨d, hd, hhooks⟩ := Option.map_eq_some_iff.1 hhooks
  simp only [Bool.and_eq_true, decide_eq_true_eq] at hhooks
  obtain ⟨⟨⟨⟨⟨⟨hsync, hsettled⟩, hprice⟩, hsupply⟩, hunit⟩, hissues⟩, hredeems⟩ := hhooks
  obtain ⟨borrowed, w₁, hissue⟩ := Outcome.exists_of_isDone hissues
  obtain ⟨repaid, w₂, hredeem⟩ := Outcome.exists_of_isDone hredeems
  have hdebt : m.debtOf Deployment.basket = .ok d := Except.eq_ok_of_toOption hd
  have hreachable : w.Reachable := ⟨pool, router, feeRecipient, holder, owner, .production, _, hw⟩
  have hone : Amount.one.toNat = 1_000_000_000_000_000_000 := by decide
  have hquantity : (number 700_000_000_000_000_001 : Amount).toNat =
      700_000_000_000_000_001 := by decide
  obtain ⟨hissuing, hredeeming⟩ := World.Reachable.issuance_keeps_unit hreachable hsync hr hm
    hsettled hprice hb (by omega) hdebt hunit orchestrator usdc (number 700_000_000_000_000_001)
  exact ⟨w, r, b, _, borrowed, w₁, repaid, w₂, hw, hr, hb, hquantity, hissue,
    hissuing borrowed w₁ (by omega) hissue, hredeem, hredeeming repaid w₂ (by omega) hredeem⟩

end LeveredBasket.Leverage
