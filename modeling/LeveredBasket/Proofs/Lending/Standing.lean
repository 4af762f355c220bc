/-
Markets stay.

A call on the pool (`SimMarket`) books one market, which it names, and transfers tokens,
and does nothing else. What bookings of that market and transfers keep, the call keeps
(`Bank.ClosedAt`): wherever it stops, and whatever it has booked by then. What bookings of
any market keep, every call keeps (`Bank.Closed`). That a market is there is of this kind,
so that no request ever takes a market out of the pool (`PoolRequest.keeps_has`).
-/
import LeveredBasket.Proofs.Lending.Calls
import LeveredBasket.Proofs.Run

set_option autoImplicit false

namespace LeveredBasket.Lending

namespace Bank

/-- **Bookings of one market keep `I`**, and so do transfers. -/
structure ClosedAt (params : MarketParams) (I : Bank → Prop) : Prop where
  booked : ∀ b m, I b → I (b.booked params m)
  moved : ∀ {b asset sender recipient amount t},
    TokenBook.Transferred asset sender recipient amount b.tokens t → I b → I { b with tokens := t }

/-- **Bookings keep `I`**, and so do transfers. -/
structure Closed (I : Bank → Prop) : Prop where
  booked : ∀ b params m, I b → I (b.booked params m)
  moved : ∀ {b asset sender recipient amount t},
    TokenBook.Transferred asset sender recipient amount b.tokens t → I b → I { b with tokens := t }

theorem Closed.at {I : Bank → Prop} (h : Closed I) (params : MarketParams) : ClosedAt params I :=
  ⟨fun b m => h.booked b params m, h.moved⟩

/-- The pool has a market of this name. -/
def Has (id : MarketId) (b : Bank) : Prop := ∃ m, b.pool.markets.get? id = some m

/-! ## Every call keeps what bookings of its market keep -/

section ClosedAt

variable {I : Bank → Prop} {params : MarketParams} {m : Market} {α : Type}

theorem ClosedAt.keeps_compute (_ : ClosedAt params I) (x : Except MathError α) :
    (compute x).Keeps I fun _ => True := by
  intro b hb
  rw [ends_compute]
  exact ⟨fun _ _ => hb, fun _ _ => ⟨hb, trivial⟩⟩

theorem ClosedAt.keeps_market (_ : ClosedAt params I) :
    (market params).Keeps I fun _ => True := by
  intro b hb
  rw [ends_market]
  exact ⟨fun _ _ => hb, fun _ => ⟨hb, trivial⟩⟩

theorem ClosedAt.keeps_book (h : ClosedAt params I) (m : Market) :
    (book params m).Keeps I fun _ => True := fun b hb => h.booked b m hb

theorem ClosedAt.keeps_move (h : ClosedAt params I) (asset sender recipient : Address)
    (amount : Amount) : (move asset sender recipient amount).Keeps I fun _ => True := by
  intro b hb
  refine (move_spec asset sender recipient amount b).imp ?_ ?_
  · rintro _ _ ⟨t, ht, rfl⟩
    exact h.moved ht hb
  · rintro _ _ ⟨-, rfl, -⟩
    exact ⟨hb, trivial⟩

theorem ClosedAt.keeps_accrue (h : ClosedAt params I) :
    (accrue params).Keeps I fun _ => True := by
  intro b hb
  refine (accrue_spec params b).imp ?_ ?_
  · rintro _ _ ⟨m, m', -, -, rfl⟩
    exact h.booked b m' hb
  · rintro _ _ ⟨-, -, rfl | ⟨m, debt, -, -, rfl⟩⟩
    · exact ⟨hb, trivial⟩
    · exact ⟨h.booked b _ hb, trivial⟩

theorem ClosedAt.keeps_supply (h : ClosedAt params I) (lender : Address) (assets : Amount) :
    (supply params lender assets).Keeps I fun _ => True := by
  refine .bind (.require _ trivial) fun _ => .bind h.keeps_accrue fun _ => ?_
  refine .bind h.keeps_market fun m => .bind (h.keeps_compute _) fun shares => ?_
  refine .bind (.read _) fun pool => .bind (h.keeps_move _ _ _ _) fun _ => ?_
  refine .bind (h.keeps_compute _) fun supplyAssets => .bind (h.keeps_book _) fun _ => ?_
  refine .bind (h.keeps_compute _) fun supplyShares => .bind (h.keeps_book _) fun _ => ?_
  exact .bind (h.keeps_compute _) fun held => .bind (h.keeps_book _) fun _ => .pure _

theorem ClosedAt.keeps_supplyCollateral (h : ClosedAt params I) (who : Address)
    (amount : Amount) : (supplyCollateral params who amount).Keeps I fun _ => True := by
  refine .bind (.require _ trivial) fun _ => .bind h.keeps_market fun m => ?_
  refine .bind (.read _) fun pool => .bind (h.keeps_move _ _ _ _) fun _ => ?_
  exact .bind (h.keeps_compute _) fun collateral => h.keeps_book _

theorem ClosedAt.keeps_withdrawCollateral (h : ClosedAt params I) (who : Address)
    (amount : Amount) (receiver : Address) :
    (withdrawCollateral params who amount receiver).Keeps I fun _ => True := by
  refine .bind (.require _ trivial) fun _ => .bind h.keeps_accrue fun _ => ?_
  refine .bind h.keeps_market fun m => .bind (.read _) fun price => ?_
  refine .bind (.require _ trivial) fun _ => .bind (h.keeps_book _) fun _ => ?_
  refine .bind (h.keeps_compute _) fun healthy => .bind (.require _ trivial) fun _ => ?_
  exact .bind (.read _) fun pool => h.keeps_move _ _ _ _

theorem ClosedAt.keeps_borrow (h : ClosedAt params I) (who : Address) (assets : Amount)
    (receiver : Address) : (borrow params who assets receiver).Keeps I fun _ => True := by
  refine .bind (.require _ trivial) fun _ => .bind h.keeps_accrue fun _ => ?_
  refine .bind h.keeps_market fun m => .bind (.read _) fun price => ?_
  refine .bind (h.keeps_compute _) fun shares => .bind (h.keeps_compute _) fun debts => ?_
  refine .bind (h.keeps_book _) fun _ => .bind (h.keeps_compute _) fun borrowShares => ?_
  refine .bind (h.keeps_book _) fun _ => .bind (h.keeps_compute _) fun owed => ?_
  refine .bind (h.keeps_book _) fun _ => .bind (h.keeps_compute _) fun healthy => ?_
  refine .bind (.require _ trivial) fun _ => .bind (.require _ trivial) fun _ => ?_
  exact .bind (.read _) fun pool => .bind (h.keeps_move _ _ _ _) fun _ => .pure _

theorem ClosedAt.keeps_settle (h : ClosedAt params I) (m : Market) (moved : Movement) :
    (settle params m moved).Keeps I fun _ => True :=
  .bind (h.keeps_compute _) fun _ => h.keeps_book _

theorem ClosedAt.keeps_repay (h : ClosedAt params I) (who : Address) (amount : RepayAmount) :
    (repay params who amount).Keeps I fun _ => True := by
  refine .bind h.keeps_accrue fun _ => .bind h.keeps_market fun m => ?_
  refine .bind (h.keeps_compute _) fun moved => .bind (.require _ trivial) fun _ => ?_
  refine .bind (.require _ trivial) fun _ => .bind (.read _) fun pool => ?_
  refine .bind (h.keeps_move _ _ _ _) fun _ => .bind (h.keeps_book _) fun _ => ?_
  exact .bind (h.keeps_settle _ _) fun _ => .pure _

theorem ClosedAt.keeps_liquidate (h : ClosedAt params I) (borrower : Address)
    (seized repaidShares : Amount) (liquidator : Address) :
    (liquidate params borrower seized repaidShares liquidator).Keeps I fun _ => True := by
  refine .bind h.keeps_accrue fun _ => .bind h.keeps_market fun m => ?_
  refine .bind (.read _) fun price => .bind (h.keeps_compute _) fun healthy => ?_
  refine .bind (.require _ trivial) fun _ => .bind (h.keeps_compute _) fun moved => ?_
  refine .bind (.require _ trivial) fun _ => .bind (.require _ trivial) fun _ => ?_
  refine .bind (.read _) fun pool => .bind (h.keeps_move _ _ _ _) fun _ => ?_
  refine .bind (h.keeps_move _ _ _ _) fun _ => .bind (h.keeps_book _) fun _ => ?_
  exact .bind (h.keeps_settle _ _) fun _ => .pure _

end ClosedAt

/-- **No booking takes a market out of the pool.** -/
theorem closed_has (id : MarketId) : Closed (Has id) := by
  refine ⟨fun b params m => ?_, fun _ hb => hb⟩
  rintro ⟨m₀, hm₀⟩
  by_cases hid : id = params.id
  · exact ⟨m, hid ▸ get?_booked_self⟩
  · refine ⟨m₀, ?_⟩
    rw [get?_booked, if_neg hid]
    exact hm₀

end Bank

namespace PoolRequest

variable {I : Bank → Prop} {params : MarketParams}

/-- **A request that names a market keeps what bookings of it and transfers keep.** -/
theorem keeps_closedAt (h : Bank.ClosedAt params I) {q : PoolRequest}
    (hq : q.market? = some params) : q.perform.Keeps I fun _ => True := by
  cases q with
  | setPrice => cases hq
  | advance => cases hq
  | createMarket p rate =>
    cases hq
    exact fun b hb => h.booked b _ hb
  | setRate p rate =>
    cases hq
    exact .bind h.keeps_accrue fun _ => .bind h.keeps_market fun m => h.keeps_book _
  | accrue p =>
    cases hq
    exact h.keeps_accrue
  | supply p lender assets =>
    cases hq
    exact .bind (h.keeps_supply _ _) fun _ => .pure _
  | supplyCollateral p who amount =>
    cases hq
    exact h.keeps_supplyCollateral _ _
  | withdrawCollateral p who amount receiver =>
    cases hq
    exact h.keeps_withdrawCollateral _ _ _
  | borrow p who assets receiver =>
    cases hq
    exact .bind (h.keeps_borrow _ _ _) fun _ => .pure _
  | repay p who amount =>
    cases hq
    exact .bind (h.keeps_repay _ _) fun _ => .pure _
  | liquidate p borrower seized repaidShares liquidator =>
    cases hq
    exact .bind (h.keeps_liquidate _ _ _ _) fun _ => .pure _

/-- **Every request keeps what bookings and transfers keep**, if prices and the clock have nothing
to do with it. -/
theorem keeps_closed (h : Bank.Closed I)
    (haside : ∀ b pool, pool.markets = b.pool.markets → I b → I { b with pool := pool })
    (q : PoolRequest) : q.perform.Keeps I fun _ => True := by
  cases q with
  | setPrice oracle price => exact fun b hb => haside b (b.pool.setPrice oracle price) rfl hb
  | advance seconds =>
    intro b hb
    simp only [perform, Action.ends_bind, Action.ends_read, Action.ends_orAbort,
      Action.ends_modify]
    intro pool hpool
    obtain ⟨now, -, rfl⟩ := Option.map_eq_some_iff.1 hpool
    exact haside b { b.pool with now := now } rfl hb
  | createMarket | setRate | accrue | supply | supplyCollateral | withdrawCollateral | borrow
  | repay | liquidate => exact keeps_closedAt (h.at _) rfl

/-- **No request takes a market out of the pool.** -/
theorem keeps_has (id : MarketId) (q : PoolRequest) :
    q.perform.Keeps (Bank.Has id) fun _ => True := by
  apply q.keeps_closed (Bank.closed_has id)
  rintro b pool hmarkets ⟨m, hm⟩
  exact ⟨m, hmarkets ▸ hm⟩

end PoolRequest

end LeveredBasket.Lending
