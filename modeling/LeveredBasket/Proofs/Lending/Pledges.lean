/-
Where collateral is, and what calls do to it.

A deposit of collateral (`SimMarket::supply_collateral`) and its withdrawal
(`SimMarket::withdraw_collateral`) move collateral of one account in one market,
and no other call of an operation moves any (`Bank.Pledged`). So as long as all
collateral of somebody is in one market, it is enough to know how much it is
(`Pool.PledgedIn`). Requests that write no account of theirs and do not open that
market anew leave it where it is.
-/
import LeveredBasket.Proofs.Lending.Deposits

set_option autoImplicit false

namespace LeveredBasket.Lending

/-- How much collateral somebody has in a market. -/
def Pool.pledged (p : Pool) (id : MarketId) (who : Address) : Nat :=
  (p.account id who).collateral.toNat

/-- **All collateral of `who` is in one market**, and is so much. If there is no such market, there
is none. -/
structure Pool.PledgedIn (p : Pool) (market? : Option MarketId) (who : Address) (amount : Int) :
    Prop where
  inside : ∀ id, market? = some id → (p.pledged id who : Int) = amount
  outside : ∀ id, market? ≠ some id → p.pledged id who = 0
  nowhere : market? = none → amount = 0

/-- **`b'` is `b` with so much more collateral of `who` in a market.** All other collateral is as it
was. -/
def Bank.Pledged (params : MarketParams) (who : Address) (change : Int) (b b' : Bank) : Prop :=
  ∀ id z, (b'.pool.pledged id z : Int) =
    b.pool.pledged id z + if id = params.id ∧ who = z then change else 0

namespace Pool

variable {p p' : Pool} {id : MarketId} {m : Market}

theorem pledged_eq (hm : p.markets.get? id = some m) (who : Address) :
    p.pledged id who = (m.account who).collateral.toNat := by
  rw [pledged, account, hm]

theorem pledged_congr (h : p'.markets.get? id = p.markets.get? id) (who : Address) :
    p'.pledged id who = p.pledged id who := by
  rw [pledged, pledged, account, account, h]

end Pool

/-! ## Calls -/

namespace Bank

variable {b b' : Bank} {params : MarketParams} {who : Address} {m m' : Market} {change : Int}

/-- A market that is booked with one account changed. -/
theorem pledged_booked (hm : b.pool.markets.get? params.id = some m)
    (hothers : ∀ z, z ≠ who → m'.account z = m.account z)
    (hchange : ((m'.account who).collateral.toNat : Int) =
      (m.account who).collateral.toNat + change) (t : TokenBook) :
    b.Pledged params who change { b.booked params m' with tokens := t } := by
  intro id z
  have hbooked : ({ b.booked params m' with tokens := t } : Bank).pool.markets.get? id =
      if id = params.id then some m' else b.pool.markets.get? id := get?_booked id
  by_cases hid : id = params.id
  · subst hid
    rw [if_pos rfl] at hbooked
    rw [Pool.pledged_eq hbooked, Pool.pledged_eq hm]
    by_cases hz : who = z
    · rw [if_pos ⟨rfl, hz⟩, ← hz]
      exact hchange
    · rw [if_neg fun h => hz h.2, Int.add_zero, hothers z fun h => hz h.symm]
  · rw [if_neg hid] at hbooked
    rw [Pool.pledged_congr hbooked, if_neg fun h => hid h.1, Int.add_zero]

/-- Interest is no collateral. -/
theorem pledged_accrue (params : MarketParams) (who : Address) (b : Bank) :
    ((accrue params).run b).Yields fun _ b' => b.Pledged params who 0 b' := by
  refine (accrue_spec params b).yields ?_
  rintro _ _ ⟨m, m', hm, haccrued, rfl⟩
  refine pledged_booked hm (fun z _ => haccrued.account z) ?_ _
  rw [haccrued.account, Int.add_zero]

theorem pledged_borrow (params : MarketParams) (who : Address) (assets : Amount)
    (receiver : Address) (b : Bank) :
    ((borrow params who assets receiver).run b).Yields fun _ b' => b.Pledged params who 0 b' := by
  refine (borrow_ends params who assets receiver b).yields ?_
  rintro _ _ ⟨m₀, m, m', t, hm₀, haccrued, -, hdealt, hcollateral, -, -, rfl⟩
  refine pledged_booked hm₀ (fun z hz => (hdealt.others z hz).trans (haccrued.account z)) ?_ t
  rw [hcollateral, haccrued.account, Int.add_zero]

theorem pledged_repay (params : MarketParams) (who : Address) (amount : RepayAmount) (b : Bank) :
    ((repay params who amount).run b).Yields fun _ b' => b.Pledged params who 0 b' := by
  refine (repay_ends params who amount b).yields ?_
  rintro _ _ ⟨m₀, m, m', t, hm₀, haccrued, -, hdealt, hcollateral, -, rfl⟩
  refine pledged_booked hm₀ (fun z hz => (hdealt.others z hz).trans (haccrued.account z)) ?_ t
  rw [hcollateral, haccrued.account, Int.add_zero]

/-- **A deposit of collateral** is so much more of it. -/
theorem pledged_supplyCollateral (params : MarketParams) (who : Address) (amount : Amount)
    (b : Bank) : ((supplyCollateral params who amount).run b).Yields fun _ b' =>
      b.Pledged params who amount.toNat b' := by
  refine (supplyCollateral_ends params who amount b).yields ?_
  rintro _ _ ⟨m, m', t, hm, hdealt, -, -, hcollateral, -, rfl⟩
  refine pledged_booked hm hdealt.others ?_ t
  omega

/-- **A withdrawal of collateral** is so much less of it. -/
theorem pledged_withdrawCollateral (params : MarketParams) (who : Address) (amount : Amount)
    (receiver : Address) (b : Bank) :
    ((withdrawCollateral params who amount receiver).run b).Yields fun _ b' =>
      b.Pledged params who (-(amount.toNat : Int)) b' := by
  refine (withdrawCollateral_ends params who amount receiver b).yields ?_
  rintro _ _ ⟨m₀, m, m', t, hm₀, haccrued, hdealt, -, -, hcollateral, -, -, rfl⟩
  refine pledged_booked hm₀ (fun z hz => (hdealt.others z hz).trans (haccrued.account z)) ?_ t
  rw [← haccrued.account]
  omega

end Bank

/-! ## All collateral in one market -/

namespace Pool.PledgedIn

variable {p p' : Pool} {b b' : Bank} {market? : Option MarketId} {who z : Address}
variable {amount change : Int} {params : MarketParams}

theorem of_eq (h : p.PledgedIn market? z amount)
    (hsame : ∀ id, p'.pledged id z = p.pledged id z) : p'.PledgedIn market? z amount := by
  refine ⟨fun id hid => ?_, fun id hid => ?_, h.nowhere⟩
  · rw [hsame]
    exact h.inside id hid
  · rw [hsame]
    exact h.outside id hid

theorem unchanged (h : b.pool.PledgedIn market? z amount) (hb : b.Pledged params who 0 b') :
    b'.pool.PledgedIn market? z amount := by
  refine h.of_eq fun id => ?_
  have hid := hb id z
  rw [ite_self, Int.add_zero] at hid
  exact Int.ofNat_inj.1 hid

/-- **Collateral stays in one market** if it is moved there. -/
theorem pledged (h : b.pool.PledgedIn market? z amount) (hb : b.Pledged params who change b')
    (hmarket : who = z → market? = some params.id) :
    b'.pool.PledgedIn market? z (amount + if who = z then change else 0) := by
  by_cases hz : who = z
  · have hparams := hmarket hz
    rw [if_pos hz]
    refine ⟨fun id hid => ?_, fun id hid => ?_, fun hnone => ?_⟩
    · obtain rfl := Option.some.inj (hparams.symm.trans hid)
      rw [hb, if_pos ⟨rfl, hz⟩, h.inside _ hid]
    · have hother := hb id z
      rw [if_neg fun h => hid (hparams.trans (congrArg some h.1.symm)), h.outside id hid] at hother
      exact Int.ofNat_inj.1 hother
    · rw [hparams] at hnone
      cases hnone
  · rw [if_neg hz, Int.add_zero]
    refine h.of_eq fun id => ?_
    have hid := hb id z
    rw [if_neg fun h => hz h.2, Int.add_zero] at hid
    exact Int.ofNat_inj.1 hid

/-- Nothing is in any market that one likes. -/
theorem assign (h : p.PledgedIn none z amount) (market? : Option MarketId) :
    p.PledgedIn market? z amount := by
  have hnone := h.nowhere rfl
  have hall (id : MarketId) : p.pledged id z = 0 := h.outside id (Option.some_ne_none id).symm
  refine ⟨fun id _ => ?_, fun id _ => hall id, fun _ => hnone⟩
  rw [hall, hnone]
  rfl

/-- What is nothing is in no market. -/
theorem drop (h : p.PledgedIn market? z 0) : p.PledgedIn none z 0 := by
  refine ⟨fun id hid => ?_, fun id _ => ?_, fun _ => rfl⟩
  · cases hid
  · by_cases hid : market? = some id
    · exact Int.ofNat_inj.1 (h.inside id hid)
    · exact h.outside id hid

end Pool.PledgedIn

end LeveredBasket.Lending

namespace LeveredBasket

open Lending (MarketId Pool)

/-! ## Requests to the chain -/

/-- A request moves no collateral of those whose accounts it does not write. In a market that it
opens anew nobody has any. -/
theorem ChainRequest.pledged_after {r : ChainRequest} {z : Address} {c c' : Chain}
    (hr : r.account? ≠ some z) (h : r.after c = some c') (id : MarketId) :
    c'.pool.pledged id z = c.pool.pledged id z ∨
      r.opens? = some id ∧ c'.pool.pledged id z = 0 := by
  by_cases hopens : r.opens? = some id
  · obtain ⟨m, hm, -, haccounts⟩ := ChainRequest.after_opens hopens h
    refine .inr ⟨hopens, ?_⟩
    rw [Pool.pledged_eq hm, haccounts z]
    rfl
  · refine .inl ?_
    have hrel := ChainRequest.follows hopens h
    cases hm : c.pool.markets.get? id with
    | none =>
      rw [hm] at hrel
      exact Pool.pledged_congr ((Lending.eq_none_of_rel_none hrel).trans hm.symm) z
    | some m =>
      rw [hm] at hrel
      obtain ⟨m', hm', hfollows⟩ := Lending.exists_of_rel_some hrel
      rw [Pool.pledged_eq hm', Pool.pledged_eq hm, hfollows.others z fun h => hr h.symm]

/-- **Collateral stays in its market** as long as nobody else writes the account or opens the market
anew. -/
theorem ChainRequest.pledgedIn_after {r : ChainRequest} {z : Address} {c c' : Chain}
    {market? : Option MarketId} {amount : Int} (hr : r.account? ≠ some z)
    (hopens : ∀ id, market? = some id → r.opens? ≠ some id) (h : r.after c = some c')
    (hc : c.pool.PledgedIn market? z amount) : c'.pool.PledgedIn market? z amount := by
  refine ⟨fun id hid => ?_, fun id hid => ?_, hc.nowhere⟩
  · obtain hsame | ⟨hopened, -⟩ := ChainRequest.pledged_after hr h id
    · rw [hsame]
      exact hc.inside id hid
    · exact absurd hopened (hopens id hid)
  · obtain hsame | ⟨-, hnone⟩ := ChainRequest.pledged_after hr h id
    · rw [hsame]
      exact hc.outside id hid
    · exact hnone

end LeveredBasket
