/-
Operations leave baskets secure.

Levering checks the basket's health (`SimMarket::is_healthy`) when it borrows,
delevering when it withdraws collateral, and the hook of an issuance when it
borrows for the new tokens. In each of them the rest of the operation trades, pays
the fee, adds collateral or repays, and writes units: none of that takes the
security away (`KeepsSecure`). So an operation leaves its basket secure if one of
its calls does, and the steps after it keep it secure.

To be secure is also to have a market that is up to date, so that the units which an
operation has written have all interest in them.
-/
import LeveredBasket.Proofs.Lending.Health
import LeveredBasket.Proofs.Leverage.Issuance
import LeveredBasket.Proofs.Leverage.FullDelever

set_option autoImplicit false

namespace LeveredBasket.Leverage

open Lending (Bank MarketParams)

namespace Operation

/-- **The step takes no security away**: if `who` is secure before it, then also after it. -/
abbrev KeepsSecure (params : MarketParams) (who : Address) {α : Type} (x : Operation α) : Prop :=
  x.Leads (fun s => s.chain.toBank.Secure params who) fun _ _ => True

variable {α : Type} {d : Desk} {r : Record} {basket : Address} {s : Session}
variable {params : MarketParams} {who : Address}

/-! ## Steps that take no security away -/

theorem keepsSecure_of_keepsBooks {x : Operation α}
    (hx : ∀ books, x.Keeps (fun s => s.books = books) fun _ => True) :
    KeepsSecure params who x := by
  intro s hs
  refine (hx s.books s rfl).yields fun _ s' hbooks => ?_
  exact hs.of_pool_eq (congrArg Prod.fst hbooks)

theorem keepsSecure_of_toBank_eq {x : Operation α}
    (hx : ∀ s, (x.run s).Yields fun _ s' => s'.chain.toBank = s.chain.toBank) :
    KeepsSecure params who x := by
  intro s hs
  refine (hx s).yields fun _ s' hbank => ?_
  exact hs.of_pool_eq (congrArg Bank.pool hbank)

theorem keepsSecure_lending {x : Bank.Call α}
    (hx : ∀ b, b.Secure params who → (x.run b).Yields fun _ b' => b'.Secure params who) :
    KeepsSecure params who (lending x) := by
  intro s hs
  rw [ends_lending]
  exact (hx s.chain.toBank hs).yields fun _ _ hb => hb

theorem keepsSecure_emit (payload : EventPayload) : KeepsSecure params who (emit payload) :=
  fun _ hs => hs

/-- Positions are rewritten, something is said about it, and the units are reported. -/
theorem keepsSecure_report (d : Desk) (basket : Address) (r : Record) (supply : Amount)
    (payload : SyncReport → EventPayload) (value : SyncReport → α) :
    KeepsSecure params who (do
      let report ← writePositions d basket r supply
      emit (payload report)
      pure (value report)) := by
  refine .bind (keepsSecure_of_toBank_eq fun s => ?_) fun report => ?_
  · exact (writePositions_yields d basket r supply s).yields fun _ _ h => h.2.1
  · exact .bind (keepsSecure_emit _) fun _ => .pure _

theorem keepsSecure_trade (p : TradePlan) (route : Bytes) :
    KeepsSecure params who (trade p route) :=
  keepsSecure_of_keepsBooks fun _ => keepsBooks_trade p route

theorem keepsSecure_chargeFee (d : Desk) (basket asset : Address) (amount : Amount) :
    KeepsSecure params who (chargeFee d basket asset amount) :=
  keepsSecure_of_keepsBooks fun _ => keepsBooks_chargeFee d basket asset amount

theorem keepsSecure_compute (x : Except MathError α) : KeepsSecure params who (compute x) :=
  keepsSecure_of_keepsBooks fun _ => keepsBooks_compute x

theorem keepsSecure_repayCapped (r : Record) (basket : Address) (available : Amount) :
    KeepsSecure r.params basket (repayCapped r basket available) := by
  intro s hs
  refine (repayCapped_yields r basket available s).yields ?_
  rintro repaid s' ⟨bal, -, ⟨-, -, rfl⟩ | ⟨-, moved, b, hrepay, -, rfl⟩⟩
  · exact hs
  · exact (hs.repay _).done hrepay

theorem keepsSecure_finishDelever (d : Desk) (r : Record) (p : TradePlan)
    (received fee repaid : Amount) :
    KeepsSecure params who (finishDelever d r p received fee repaid) := by
  refine .bind (keepsSecure_of_toBank_eq fun s => ?_) fun residual => ?_
  · exact (writeResidual_yields r p.basket p.supply s).yields fun _ _ h => h.2
  refine .bind (keepsSecure_of_toBank_eq fun s => ?_) fun report => ?_
  · exact (writePositions_yields d p.basket r p.supply s).yields fun _ _ h => h.2.1
  refine .bind (.read _) fun account => .bind (keepsSecure_emit _) fun _ => ?_
  refine .ite (fun _ => ?_) fun _ => .pure _
  exact .bind (keepsSecure_emit _) fun _ => .pure _

/-- The end of a component hook takes no security away: in a market that is up to date there is no
interest to come. -/
theorem HookEnded.secure {adjust : Amount → Except MathError Amount} {c c' : Chain}
    (h : HookEnded d basket r adjust c c') (hc : c.toBank.Secure r.params basket) :
    c'.toBank.Secure r.params basket := by
  unfold HookEnded at h
  split at h
  · obtain ⟨b, supply, -, -, ⟨-, rfl⟩ | ⟨m, bal, unit, hsynced⟩⟩ := h
    · exact hc
    · obtain ⟨m₁, hm₁, hsettled, -⟩ := hc.market
      obtain ⟨m₀, hm₀, haccrued⟩ := hsynced.accrued
      obtain rfl : m₁ = m₀ := Option.some.inj (hm₁.symm.trans hm₀)
      obtain rfl := haccrued.of_settled hsettled
      have hwrote := hsynced.wrote.toBank
      rw [Bank.booked_self hm₁] at hwrote
      exact hc.of_pool_eq (congrArg Bank.pool hwrote)
  · rw [h]
    exact hc

/-! ## Operations -/

/-- Interest is accrued, and shares are still counted alike. -/
theorem accrue_balanced (hs : s.chain.toBank.Balanced) (params : MarketParams) :
    ((lending (Bank.accrue params)).run s).Yields fun _ s' => s'.chain.toBank.Balanced := by
  rw [Outcome.Yields, ends_lending]
  exact (Bank.counts_accrue params s.chain.toBank hs).yields fun _ _ hb => hb

/-- **A sale of collateral leaves the basket secure.** -/
theorem sellCollateral_secure (hs : s.chain.toBank.Balanced) (d : Desk) (r : Record)
    (p : TradePlan) (route : Bytes) : ((sellCollateral d r p route).run s).Yields
      fun _ s' => s'.chain.toBank.Secure r.params p.basket := by
  have hrest : KeepsSecure r.params p.basket (do
      let received ← trade p route
      let fee ← chargeFee d p.basket p.receiveAsset received
      let net ← compute (received.sub fee)
      pure (received, fee, net)) :=
    .bind (keepsSecure_trade p route) fun received => .bind (keepsSecure_chargeFee d _ _ received)
      fun fee => .bind (keepsSecure_compute _) fun net => .pure _
  rw [Outcome.Yields, sellCollateral, Action.ends_bind, ends_lending]
  refine (Bank.withdrawCollateral_secure hs p.basket p.sendQuantity p.basket).yields ?_
  exact fun _ b hb => hrest _ hb

/-- What is kept secure is the basket in the market of its record. -/
theorem KeepsSecure.ofRecord {records : FiniteMap Address Record} {x : Operation α}
    (hr : records.get? basket = some r) (hs : s.chain.toBank.Secure r.params basket)
    (hx : KeepsSecure r.params basket x) : (x.run s).Yields fun _ s' =>
      ∃ r, records.get? basket = some r ∧ s'.chain.toBank.Secure r.params basket :=
  (hx s hs).yields fun _ _ hs' => ⟨r, hr, hs'⟩

/-- **A levering leaves its basket secure.** -/
theorem lever_secure (hs : s.chain.toBank.Balanced) (caller basket : Address)
    (borrowUnits minReceiveUnits : Amount) (adapterName : String) (route : Bytes) (d : Desk) :
    ((lever caller basket borrowUnits minReceiveUnits adapterName route d).run s).Yields
      fun _ s' => ∃ r, s.records.get? basket = some r ∧
        s'.chain.toBank.Secure r.params basket := by
  rw [lever]
  refine Action.yields_bind (enteredRecord_yields d caller basket s) ?_
  rintro r _ ⟨rfl, hr⟩
  refine Action.yields_bind (accrue_balanced hs r.params) ?_
  intro _ s₁ hs₁
  refine Action.yields_bind (planPerToken_yields d basket _ _ borrowUnits minReceiveUnits
    adapterName s₁) ?_
  rintro p _ ⟨rfl, -⟩
  rw [Outcome.Yields, Action.ends_bind, ends_lending]
  refine (Bank.borrow_secure hs₁ basket p.sendQuantity basket).yields fun borrowed b hb => ?_
  refine KeepsSecure.ofRecord hr hb ?_
  refine .bind (keepsSecure_trade p route) fun received => ?_
  refine .bind (keepsSecure_chargeFee d basket _ received) fun fee => ?_
  refine .bind (keepsSecure_compute _) fun net => ?_
  have hreport : KeepsSecure r.params basket _ := keepsSecure_report d basket r p.supply
    (fun _ => .leverageIncreased ⟨basket, r.params.loanAsset, r.params.collateralAsset,
      p.adapterName, borrowed.assets, received, fee⟩)
    (fun report => (⟨borrowed.assets, received, fee, net, report.collateralUnit,
      report.borrowUnit⟩ : LeverReport))
  refine .ite (fun _ => hreport) fun _ => ?_
  exact .bind (keepsSecure_lending fun _ hb => hb.supplyCollateral net) fun _ => hreport

/-- **A delevering leaves its basket secure.** -/
theorem delever_secure (hs : s.chain.toBank.Balanced) (caller basket : Address)
    (redeemUnits minRepayUnits : Amount) (adapterName : String) (route : Bytes) (d : Desk) :
    ((delever caller basket redeemUnits minRepayUnits adapterName route d).run s).Yields
      fun _ s' => ∃ r, s.records.get? basket = some r ∧
        s'.chain.toBank.Secure r.params basket := by
  rw [delever]
  refine Action.yields_bind (enteredRecord_yields d caller basket s) ?_
  rintro r _ ⟨rfl, hr⟩
  refine Action.yields_bind (accrue_balanced hs r.params) ?_
  intro _ s₁ hs₁
  refine Action.yields_bind (planPerToken_yields d basket _ _ redeemUnits minRepayUnits
    adapterName s₁) ?_
  rintro p _ ⟨rfl, rfl⟩
  refine Action.yields_bind (sellCollateral_secure hs₁ d r p route) ?_
  rintro ⟨received, fee, net⟩ s₂ hs₂
  refine KeepsSecure.ofRecord hr hs₂ ?_
  exact .bind (keepsSecure_repayCapped r p.basket net) fun repaid =>
    keepsSecure_finishDelever d r p received fee repaid

/-- **A delevering to zero leaves its basket secure.** -/
theorem deleverToZero_secure (hs : s.chain.toBank.Balanced) (caller basket : Address)
    (redeemUnits : Amount) (adapterName : String) (route : Bytes) (d : Desk) :
    ((deleverToZero caller basket redeemUnits adapterName route d).run s).Yields
      fun _ s' => ∃ r, s.records.get? basket = some r ∧
        s'.chain.toBank.Secure r.params basket := by
  rw [deleverToZero]
  refine Action.yields_bind (enteredRecord_yields d caller basket s) ?_
  rintro r _ ⟨rfl, hr⟩
  refine Action.yields_bind (accrue_balanced hs r.params) ?_
  intro _ s₁ hs₁
  simp only [Outcome.Yields, Action.ends_bind (x := balancesOf r basket), ends_balancesOf,
    implies_true, and_true]
  intro balances _
  refine Action.yields_bind (P := fun _ s' => s' = s₁) (E := fun _ _ => True) ?_ ?_
  · rw [Action.ends_require]
    exact ⟨fun _ => rfl, fun _ => trivial⟩
  rintro _ _ rfl
  refine Action.yields_bind (supplyOf_yields basket _) ?_
  rintro supply _ rfl
  refine Action.yields_bind (compute_yields _ _) ?_
  rintro sendQuantity _ ⟨-, rfl⟩
  refine Action.yields_bind (plan_yields d basket _ _ sendQuantity balances.borrow adapterName _) ?_
  rintro p _ ⟨rfl, rfl, -⟩
  refine Action.yields_bind (sellCollateral_secure hs₁ d r p route) ?_
  rintro ⟨received, fee, net⟩ s₂ hs₂
  refine KeepsSecure.ofRecord hr hs₂ ?_
  refine .bind (.require _ fun _ _ => trivial) fun _ => ?_
  refine .bind (keepsSecure_lending fun _ hb => hb.repay _) fun moved => ?_
  exact keepsSecure_finishDelever d r p received fee moved.assets

/-- **An issuance that borrows leaves its basket secure.** -/
theorem issueHook_secure (hs : s.chain.toBank.Balanced) (caller basket : Address)
    (quantity : Amount) (component : Address) (isEquity : Bool) (d : Desk) :
    ((issueHook caller basket quantity component isEquity d).run s).Yields fun borrowed s' =>
      borrowed ≠ 0 → ∃ r, s.records.get? basket = some r ∧
        s'.chain.toBank.Secure r.params basket := by
  cases isEquity with
  | true =>
    -- equity is not borrowed for
    rw [issueHook]
    refine Action.yields_bind (requireIssuer_yields caller basket s) ?_
    rintro _ _ rfl
    refine Action.yields_bind (recordOf_yields d basket _) ?_
    rintro r _ -
    exact fun hsome => absurd rfl hsome
  | false =>
    refine (issueHook_yields caller basket quantity component d s).yields ?_
    rintro borrowed s' ⟨r, b, s₁, hr, -, -, -, hborrowed, hended⟩ hsome
    rcases hborrowed with ⟨hnone, -⟩ | ⟨moved, bank, hborrow, rfl⟩
    · exact absurd hnone hsome
    · have hsecure := (Bank.borrow_secure hs basket borrowed basket).done hborrow
      exact ⟨r, hr, hended.secure hsecure⟩

end Operation

end LeveredBasket.Leverage
