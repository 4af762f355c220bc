/-
A levered basket is not liquidated by what others do.

An operation that borrows for a basket or sells its collateral leaves the basket
secure. What others do next changes neither its account nor the terms of its market,
and does not raise its debt: calls that write other accounts, operations on other
baskets, new rates, new markets beside this one. So while the clock and the price
stand still, every attempt to liquidate the basket (`SimMarket::liquidate`) is
refused (`World.Reachable.not_liquidated`).

Time passes in the other direction only, so a clock that shows the same at the end
has shown the same all the while. Prices may move and come back: nobody's debt
depends on them.
-/
import LeveredBasket.Proofs.Leverage.Security

set_option autoImplicit false

namespace LeveredBasket

/-! ## What leaves an account alone -/

namespace Lending

/-- The market that a request opens, in place of any market of that name. -/
def PoolRequest.opens? : PoolRequest → Option MarketId
  | createMarket params _ => some params.id
  | _ => none

/-- The request writes no account of `who`, and does not open the market of these parameters anew.
-/
def PoolRequest.LeavesAlone (params : MarketParams) (who : Address) (q : PoolRequest) : Prop :=
  q.account? ≠ some who ∧ q.opens? ≠ some params.id

instance (params : MarketParams) (who : Address) (q : PoolRequest) :
    Decidable (q.LeavesAlone params who) :=
  inferInstanceAs (Decidable (_ ∧ _))

/-- **The market is steady for `who`** from `b` to `b'`: no time is taken back, and as long as none
has passed, the market spares `who`. -/
structure Bank.Steady (params : MarketParams) (who : Address) (b b' : Bank) : Prop where
  now : b.pool.now ≤ b'.pool.now
  market : b'.pool.now = b.pool.now → ∀ m, b.pool.markets.get? params.id = some m →
    ∃ m', b'.pool.markets.get? params.id = some m' ∧ m.Spares b.pool.now who m'

end Lending

open Lending (Bank MarketParams PoolRequest)

/-- The request to the chain leaves alone what `who` has in the market of these parameters. -/
def ChainRequest.LeavesAlone (params : MarketParams) (who : Address) : ChainRequest → Prop
  | .pool q => q.LeavesAlone params who
  | _ => True

instance (params : MarketParams) (who : Address) :
    (r : ChainRequest) → Decidable (r.LeavesAlone params who)
  | .pool q => inferInstanceAs (Decidable (q.LeavesAlone params who))
  | .token _ | .venue _ | .registry _ | .basket _ _ | .trade _ _ => isTrue trivial

namespace Leverage

namespace Request

/-- The request leaves alone what `who` has in the market of these parameters: if it is an operation
on a basket, then on another. -/
def LeavesAlone (params : MarketParams) (who : Address) : Request → Prop
  | chain q => q.LeavesAlone params who
  | desk (.basket address _) => address ≠ who
  | desk _ => True

instance (params : MarketParams) (who : Address) :
    (r : Request) → Decidable (r.LeavesAlone params who)
  | chain q => inferInstanceAs (Decidable (q.LeavesAlone params who))
  | desk (.basket address _) => inferInstanceAs (Decidable (address ≠ who))
  | desk (.setTime _) | desk (.advanceTime _) | desk (.setAnyAllowed _ _) => isTrue trivial

/-- The world after a request that goes through. -/
def through (w : World) : Request → Option World
  | chain request => (request.through w.chain).map fun c => { w with chain := c }
  | desk request => request.perform.through w

end Request

/-- The world after one request after another, if all of them go through. -/
def World.passes : List Request → World → Option World
  | [], w => some w
  | r :: rest, w => r.through w >>= passes rest

/-- **The basket's debt has been adjusted**: from the one world to the other, it has been levered or
delevered, or has borrowed for an issuance. -/
inductive World.Adjusts (basket : Address) (w w' : World) : Prop
  | lever {caller : Address} {borrowUnits minReceiveUnits : Amount} {adapterName : String}
      {route : Bytes} {report : LeverReport}
      (h : (World.lever caller basket borrowUnits minReceiveUnits adapterName route).run w =
        .done report w')
  | delever {caller : Address} {redeemUnits minRepayUnits : Amount} {adapterName : String}
      {route : Bytes} {report : DeleverReport}
      (h : (World.delever caller basket redeemUnits minRepayUnits adapterName route).run w =
        .done report w')
  | deleverToZero {caller : Address} {redeemUnits : Amount} {adapterName : String}
      {route : Bytes} {report : DeleverReport}
      (h : (World.deleverToZero caller basket redeemUnits adapterName route).run w =
        .done report w')
  | issueHook {caller : Address} {quantity : Amount} {component : Address} {isEquity : Bool}
      {borrowed : Amount}
      (h : (World.issueHook caller basket quantity component isEquity).run w = .done borrowed w')
      (hsome : borrowed ≠ 0)

end Leverage

/-! ## Steadiness -/

namespace Lending

namespace Bank

variable {b b' b'' : Bank} {params : MarketParams} {who : Address}

theorem Steady.trans (h : b.Steady params who b') (h' : b'.Steady params who b'') :
    b.Steady params who b'' := by
  refine ⟨Nat.le_trans h.now h'.now, fun hnow m hm => ?_⟩
  -- time that has passed first is not taken back afterwards
  have hfirst : b'.pool.now = b.pool.now := by
    have hle : b'.pool.now.toNat ≤ b''.pool.now.toNat := h'.now
    have hle' : b.pool.now.toNat ≤ b'.pool.now.toNat := h.now
    have hsame := congrArg Word.toNat hnow
    exact Word.ext (by omega)
  obtain ⟨m', hm', hspares⟩ := h.market hfirst m hm
  obtain ⟨m'', hm'', hspares'⟩ := h'.market (hnow.trans hfirst.symm) m' hm'
  rw [hfirst] at hspares'
  exact ⟨m'', hm'', hspares.trans hspares'⟩

theorem Spares.steady (h : b.Spares who b') : b.Steady params who b' :=
  ⟨Nat.le_of_eq (congrArg Word.toNat h.now.symm), fun _ m hm => h.markets params.id m hm⟩

/-- What becomes of other markets and of prices is nothing to this one. -/
theorem steady_of_get?_eq (hnow : b.pool.now ≤ b'.pool.now)
    (hmarket : b'.pool.markets.get? params.id = b.pool.markets.get? params.id) :
    b.Steady params who b' :=
  ⟨hnow, fun _ m hm => ⟨m, hmarket.trans hm, .refl _ _ _⟩⟩

/-- A new rate is for the time to come. -/
theorem setRate_spares {p : MarketParams} {rate : Amount}
    (h : (setRate p rate).run b = .done () b') : b.Spares who b' := by
  obtain ⟨_, b₁, haccrue, h⟩ := Action.run_bind_eq_done.1 h
  obtain ⟨m₀, m, hm₀, haccrued, rfl⟩ := (accrue_spec p b).done haccrue
  have hends : ((do
      let m ← market p
      book p { m with rate := rate } : Call Unit).run (b.booked p m)).Ends
      (fun _ b' => b' = b.booked p { m with rate := rate }) fun _ _ => True := by
    simp only [Action.ends_bind, ends_market, ends_book, booked_booked, implies_true, and_true]
    intro m₁ hm₁
    obtain rfl : m = m₁ := Option.some.inj (get?_booked_self.symm.trans hm₁)
    rfl
  obtain rfl := hends.done h
  have hrate : m.Spares b.pool.now who { m with rate := rate } := by
    refine ⟨rfl, rfl, ?_⟩
    rw [Market.owedAt_of_settled haccrued.settled,
      Market.owedAt_of_settled (m := { m with rate := rate }) haccrued.settled]
    exact Nat.le_refl _
  exact spares_booked hm₀ ((haccrued.spares who).trans hrate) b.tokens

end Bank

/-- **A call that goes through is steady for everyone it leaves alone.** -/
theorem PoolRequest.LeavesAlone.steady {params : MarketParams} {who : Address} {q : PoolRequest}
    {b b' : Bank} (hq : q.LeavesAlone params who) (hb : b.Balanced)
    (h : q.perform.run b = .done () b') : b.Steady params who b' := by
  obtain ⟨haccount, hopens⟩ := hq
  cases q with
  | createMarket p rate =>
    cases h
    refine Bank.steady_of_get?_eq (Nat.le_refl _) ?_
    exact b.pool.markets.get?_insert_of_ne (fun h => hopens (congrArg some h.symm)) _
  | setRate p rate => exact (Bank.setRate_spares h).steady
  | setPrice oracle price =>
    cases h
    exact Bank.steady_of_get?_eq (Nat.le_refl _) rfl
  | advance seconds =>
    have hends : ((PoolRequest.advance seconds).perform.run b).Ends
        (fun _ b' => b.Steady params who b') fun _ _ => True := by
      simp only [perform, Action.ends_bind, Action.ends_read, Action.ends_orAbort,
        Action.ends_modify]
      intro pool hpool
      obtain ⟨now, hnow, rfl⟩ := Option.map_eq_some_iff.1 hpool
      have hlater : now.toNat = b.pool.now.toNat + seconds.toNat := Word.ofNat?_eq_some.1 hnow
      have hle : b.pool.now.toNat ≤ now.toNat := by omega
      exact Bank.steady_of_get?_eq hle rfl
    exact hends.done h
  | accrue p => exact (Bank.accrue_spares h who).steady
  | supply | supplyCollateral | withdrawCollateral | borrow | repay | liquidate =>
    exact (PoolRequest.spares rfl (fun h => haccount (congrArg some h.symm)) hb h).steady

end Lending

/-- **A request to the chain that goes through is steady for everyone it leaves alone.** -/
theorem ChainRequest.LeavesAlone.steady {params : MarketParams} {who : Address}
    {r : ChainRequest} {c c' : Chain} (hr : r.LeavesAlone params who) (hc : c.toBank.Balanced)
    (h : r.through c = some c') : c.toBank.Steady params who c'.toBank := by
  by_cases hpool : ∃ q, r = .pool q
  · obtain ⟨q, rfl⟩ := hpool
    exact PoolRequest.LeavesAlone.steady hr hc (Leverage.through_pool h)
  · have hsame := ChainRequest.pool_after hpool (ChainRequest.after_of_through h)
    exact (Bank.spares_of_pool_eq hsame who).steady

namespace Leverage

section Others

variable {known : Set MarketParams} {params : MarketParams} {who basket : Address}
variable {w w' : World}

/-- An operation on another basket is steady. -/
theorem Errand.Moved.steady {k : Errand} {c : Chain} (h : k.Moved c)
    (hstart : k.start.toBank.Balanced) (hother : k.basket ≠ who) :
    k.start.toBank.Steady params who c.toBank :=
  (h.spares hstart hother.symm).steady

/-- What goes through leaves what any request would leave. -/
theorem Request.after_of_through {r : Request} (h : r.through w = some w') :
    r.after w = some w' := by
  cases r with
  | chain q =>
    obtain ⟨c, hc, rfl⟩ := Option.map_eq_some_iff.1 h
    exact Option.map_eq_some_iff.2 ⟨c, ChainRequest.after_of_through hc, rfl⟩
  | desk q => exact Action.after_of_through h

/-- **Requests that go through and leave `who` alone are steady for it**, one after another. -/
theorem World.passes_steady {later : List Request} (hw : w.Orderly Set.univ)
    (hbalanced : w.chain.toBank.Balanced) (hlater : ∀ r ∈ later, r.LeavesAlone params who)
    (h : passes later w = some w') : w.chain.toBank.Steady params who w'.chain.toBank := by
  induction later generalizing w with
  | nil =>
    obtain rfl : w = w' := Option.some.inj h
    exact (Bank.Spares.refl who _).steady
  | cons r rest ih =>
    obtain ⟨v, hv, hrest⟩ := Option.bind_eq_some_iff.1 h
    have hr := hlater r List.mem_cons_self
    have hrest' : ∀ q ∈ rest, q.LeavesAlone params who :=
      fun q hq => hlater q (List.mem_cons_of_mem r hq)
    cases r with
    | chain q =>
      obtain ⟨c, hc, rfl⟩ := Option.map_eq_some_iff.1 hv
      have hafter := ChainRequest.after_of_through hc
      refine (ChainRequest.LeavesAlone.steady hr hbalanced hc).trans (ih ?_ ?_ hrest' hrest)
      · exact ⟨ChainRequest.after_tidy hw.tidy hafter, hw.records⟩
      · exact Lending.after_balanced hbalanced hafter
    | desk q =>
      obtain ⟨hv', hsame | ⟨address, operation, rfl, hmoved⟩⟩ :=
        DeskRequest.after_spec hw (fun _ _ => trivial) (Action.after_of_through hv)
      · have hfirst : w.chain.toBank.Steady params who v.chain.toBank := by
          rw [hsame]
          exact (Bank.Spares.refl who _).steady
        have hbalanced' : v.chain.toBank.Balanced := by
          rw [hsame]
          exact hbalanced
        exact hfirst.trans (ih hv' hbalanced' hrest' hrest)
      · have hfirst : w.chain.toBank.Steady params who v.chain.toBank :=
          hmoved.steady hbalanced hr
        have hmoves : Chain.Moves (fun _ => True) w.chain v.chain :=
          Chain.Passes.moves hmoved fun _ _ => trivial
        exact hfirst.trans (ih hv' (Lending.balanced_of_moves hmoves hbalanced) hrest' hrest)

/-! ## Security and liquidation -/

/-- **Who has had its debt adjusted is secure.** -/
theorem World.Adjusts.secure (hw : w.Reachable) (h : w.Adjusts basket w') :
    w'.Orderly Set.univ ∧ ∃ r, w'.desk.records.get? basket = some r ∧
      w'.chain.toBank.Secure r.params basket := by
  have ho := hw.orderly
  have hrecords : SoundRecords (ho.errand basket).known w.desk.records := ho.records
  have hbalanced : w.chain.toBank.Balanced := Lending.balanced_of_reachable hw
  cases h with
  | lever h =>
    obtain ⟨ho', hsame⟩ := World.operate_conducted ho
      (Errand.attains_lever rfl hrecords _ _ _ _ _).leads h
    obtain ⟨s, log, hdone, rfl⟩ := World.operate_yields h
    exact ⟨ho', hsame ▸ (Operation.lever_secure hbalanced _ _ _ _ _ _ _).done hdone⟩
  | delever h =>
    obtain ⟨ho', hsame⟩ := World.operate_conducted ho
      (Errand.attains_delever rfl hrecords _ _ _ _ _).leads h
    obtain ⟨s, log, hdone, rfl⟩ := World.operate_yields h
    exact ⟨ho', hsame ▸ (Operation.delever_secure hbalanced _ _ _ _ _ _ _).done hdone⟩
  | deleverToZero h =>
    obtain ⟨ho', hsame⟩ := World.operate_conducted ho
      (Errand.attains_deleverToZero rfl hrecords _ _ _ _).leads h
    obtain ⟨s, log, hdone, rfl⟩ := World.operate_yields h
    exact ⟨ho', hsame ▸ (Operation.deleverToZero_secure hbalanced _ _ _ _ _ _).done hdone⟩
  | issueHook h hsome =>
    obtain ⟨ho', hsame⟩ := World.operate_conducted ho
      (Errand.conducts_issueHook rfl hrecords _ _ _ _) h
    obtain ⟨s, log, hdone, rfl⟩ := World.operate_yields h
    exact ⟨ho', hsame ▸ (Operation.issueHook_secure hbalanced _ _ _ _ _ _).done hdone hsome⟩

/-- **A levered basket is not liquidated by what others do.** In a world that can come about, let a
basket be levered or delevered, or let it borrow for an issuance. Then what it owes, rounded up, is
at most what its collateral allows, with the collateral's value and its part each rounded down. And
after any requests that go through and leave the basket alone, whoever makes them, every attempt to
liquidate the basket is refused, as long as the clock and the price show the same. -/
theorem World.Reachable.not_liquidated (hw : w.Reachable) (h : w.Adjusts basket w') :
    ∃ r m, w'.desk.records.get? basket = some r ∧
      w'.chain.pool.markets.get? r.market = some m ∧
      ((m.account basket).borrowShares.toNat * (m.totals.borrowAssets.toNat + 1)) ⌈/⌉
          (m.totals.borrowShares.toNat + 1000000) ≤
        (m.account basket).collateral.toNat * (w'.chain.pool.price r.params).toNat /
          Lending.Market.priceScale.toNat * m.params.threshold.toNat / Amount.one.toNat ∧
      ∀ (later : List Request) w'', (∀ q ∈ later, q.LeavesAlone r.params basket) →
        World.passes later w' = some w'' → w''.chain.pool.now = w'.chain.pool.now →
        w''.chain.pool.price r.params = w'.chain.pool.price r.params →
        ∀ seized repaidShares liquidator, ∃ e b,
          (Bank.liquidate r.params basket seized repaidShares liquidator).run w''.chain.toBank =
            .refused e b := by
  obtain ⟨ho', r, hr, hbalanced, m, hm, hsettled, hcovered⟩ := World.Adjusts.secure hw h
  refine ⟨r, m, hr, ?_, ?_, ?_⟩
  · rw [(ho'.records basket r hr).market]
    exact hm
  · rw [← Lending.Market.owedAt_of_settled hsettled basket]
    exact hcovered
  · intro later w'' hlater hpasses hnow hprice seized repaidShares liquidator
    have hsteady := World.passes_steady ho' hbalanced hlater hpasses
    obtain ⟨m', hm', hspares⟩ := hsteady.market hnow m hm
    have hcovered' := hcovered.spared hspares
    rw [← hnow, ← hprice] at hcovered'
    exact Bank.liquidate_refused hm' hcovered' seized repaidShares liquidator

end Others

open Deployment in
/-- What the lender does next: it sets a rate, borrows against collateral of its own, and repays a
share at a time. -/
def bustling : List Request :=
  ([.pool (.setRate params (number 1_000_000_000_000)), .token (.mint wsteth lender Amount.one),
    .pool (.supplyCollateral params lender Amount.one),
    .pool (.borrow params lender (number 5) lender),
    .pool (.repay params lender (.shares 1)), .pool (.repay params lender (.shares 1))] :
      List ChainRequest).map .chain

open Deployment in
/-- So it is for the basket of the reference deployment: it is levered, the lender borrows and
repays, and then wants the basket liquidated. -/
theorem World.not_liquidated_of_levering : ∃ w w' w'' report e b,
    World.runs entering (start .usual) = some w ∧
    (World.lever manager Deployment.basket thousandUsdc 0 adapterName []).run w =
      .done report w' ∧
    (∃ r m, w'.desk.records.get? Deployment.basket = some r ∧ r.params = params ∧
      w'.chain.pool.markets.get? r.market = some m ∧
      ((m.account Deployment.basket).borrowShares.toNat * (m.totals.borrowAssets.toNat + 1)) ⌈/⌉
          (m.totals.borrowShares.toNat + 1000000) ≤
        (m.account Deployment.basket).collateral.toNat *
            (w'.chain.pool.price r.params).toNat / Lending.Market.priceScale.toNat *
          m.params.threshold.toNat / Amount.one.toNat) ∧
    World.passes bustling w' = some w'' ∧
    (Bank.liquidate params Deployment.basket Amount.one 1 lender).run w''.chain.toBank =
      .refused e b := by
  have hlevers : ((World.runs entering (start .usual)).map fun w =>
      ((World.lever manager Deployment.basket thousandUsdc 0 adapterName []).run w).isDoneWith
        fun _ w' =>
          decide ((w'.desk.records.get? Deployment.basket).map (·.params) = some params) &&
          decide (((World.passes bustling w').map fun w'' =>
            decide (w''.chain.pool.now = w'.chain.pool.now) &&
            decide (w''.chain.pool.price params = w'.chain.pool.price params)) = some true)) =
      some true := by decide +kernel
  obtain ⟨w, hw, hlevers⟩ := Option.map_eq_some_iff.1 hlevers
  obtain ⟨report, w', hlever, hlater⟩ := Outcome.exists_of_isDoneWith hlevers
  simp only [Bool.and_eq_true, decide_eq_true_eq] at hlater
  obtain ⟨hparams, hlater⟩ := hlater
  obtain ⟨w'', hpasses, hstands⟩ := Option.map_eq_some_iff.1 hlater
  simp only [Bool.and_eq_true, decide_eq_true_eq] at hstands
  obtain ⟨hnow, hprice⟩ := hstands
  have hreachable : w.Reachable := ⟨pool, router, feeRecipient, holder, owner, .usual, _, hw⟩
  obtain ⟨r, m, hr, hm, hcovered, hrefused⟩ :=
    World.Reachable.not_liquidated hreachable (World.Adjusts.lever hlever)
  rw [hr] at hparams
  have hsame : r.params = params := Option.some.inj hparams
  have halone : ∀ q ∈ bustling, q.LeavesAlone params Deployment.basket := by decide +kernel
  rw [hsame] at hrefused
  obtain ⟨e, b, hliquidate⟩ := hrefused bustling w'' halone hpasses hnow hprice Amount.one 1 lender
  exact ⟨w, w', w'', report, e, b, hw, hlever, ⟨r, m, hr, hsame, hm, hcovered⟩, hpasses,
    hliquidate⟩

end Leverage

end LeveredBasket
