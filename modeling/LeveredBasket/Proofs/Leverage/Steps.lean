/-
What the steps of an operation yield.

Most operations begin by asking who is calling and by looking up a record; that
changes nothing. The steps after it accrue interest, repay, and write units. For
each step there is one statement of what it has done where it goes through, in
terms of the bank and of the basket before it, so that what an operation does is
read off its steps one after the other.
-/
import LeveredBasket.Proofs.Lending.Rounding
import LeveredBasket.Proofs.Leverage.Alignment

set_option autoImplicit false

namespace LeveredBasket

/-- Only hooks are dropped. -/
theorem Chain.dropHooks_same (c : Chain) (address hook : Address) (issuers : List Address) :
    (issuers.foldl (fun c issuer => c.dropHook issuer address hook) c).toBank = c.toBank ∧
      (issuers.foldl (fun c issuer => c.dropHook issuer address hook) c).baskets = c.baskets := by
  induction issuers generalizing c with
  | nil => exact ⟨rfl, rfl⟩
  | cons first rest ih =>
    have hfirst : (c.dropHook first address hook).toBank = c.toBank ∧
        (c.dropHook first address hook).baskets = c.baskets := by
      unfold dropHook
      split <;> exact ⟨rfl, rfl⟩
    exact ⟨(ih _).1.trans hfirst.1, (ih _).2.trans hfirst.2⟩

namespace Leverage

open Lending (Bank Market MarketParams RepayAmount)

/-- The session with this bank. -/
def Session.withBank (s : Session) (b : Bank) : Session :=
  { s with chain := { s.chain with toBank := b } }

/-- What a session has besides tokens and baskets: the pool, the records, and what has been said. -/
def Session.books (s : Session) : Lending.Pool × FiniteMap Address Record × List EventPayload :=
  (s.chain.pool, s.records, s.events)

theorem Session.books_eq {s : Session} {pool : Lending.Pool} {records : FiniteMap Address Record}
    {events : List EventPayload} (h : s.books = (pool, records, events)) :
    s.chain.pool = pool ∧ s.records = records ∧ s.events = events := by
  simpa only [Session.books, Prod.mk.injEq] using h

/-! ## Balances and markets -/

/-- The account that a record points at is the basket's account in its market. -/
theorem Record.account_market {r : Record} {c : Chain} {m : Market}
    (hmarket : r.market = r.params.id) (hm : c.pool.markets.get? r.params.id = some m)
    (basket : Address) : c.pool.account r.market basket = m.account basket := by
  simp [Lending.Pool.account, hmarket, hm]

/-- **What stands behind the positions of a basket** is what its market has in its books, and what
it has in its wallet. -/
theorem Record.balances_iff {r : Record} {c : Chain} {basket : Address} {bal : Balances}
    {m : Market} (hmarket : r.market = r.params.id)
    (hm : c.pool.markets.get? r.params.id = some m) : r.balances c basket = .ok bal ↔
      m.debtOf basket = .ok bal.borrow ∧ bal.borrowShares = (m.account basket).borrowShares ∧
        (c.tokens.balance r.params.collateralAsset basket).add (m.account basket).collateral =
          .ok bal.collateral := by
  have htotals : c.pool.totals r.market = .ok m.totals := by
    simp [Lending.Pool.totals, hmarket, hm]
  rw [balances, r.account_market hmarket hm, htotals]
  simp only [Except.bind_eq_ok, Except.mapError_eq_ok]
  constructor
  · rintro ⟨totals, htotals, borrow, hborrow, collateral, hcollateral, hbal⟩
    obtain rfl := Except.ok.inj htotals
    obtain rfl := Except.ok.inj hbal
    exact ⟨hborrow, rfl, hcollateral⟩
  · rintro ⟨hborrow, hshares, hcollateral⟩
    refine ⟨_, rfl, _, hborrow, _, hcollateral, ?_⟩
    rw [← hshares]
    rfl

theorem Record.balances_market {r : Record} {c : Chain} {basket : Address} {bal : Balances}
    {m : Market} (hmarket : r.market = r.params.id)
    (hm : c.pool.markets.get? r.params.id = some m) (h : r.balances c basket = .ok bal) :
    m.debtOf basket = .ok bal.borrow ∧ bal.borrowShares = (m.account basket).borrowShares := by
  obtain ⟨hborrow, hshares, -⟩ := (Record.balances_iff hmarket hm).1 h
  exact ⟨hborrow, hshares⟩

/-- The balances of a basket whose collateral in wallet and market is more than an amount can be
cannot be told, even where its debt can. -/
theorem Record.balances_overflow {r : Record} {c : Chain} {basket : Address} {debt : Amount}
    {m : Market} (hmarket : r.market = r.params.id)
    (hm : c.pool.markets.get? r.params.id = some m) (hdebt : m.debtOf basket = .ok debt)
    (hfull : 1 <<< 128 ≤ (c.tokens.balance r.params.collateralAsset basket).toNat +
      (m.account basket).collateral.toNat) : r.balances c basket = .error (.math .overflow) := by
  have htotals : c.pool.totals r.market = .ok m.totals := by
    simp [Lending.Pool.totals, hmarket, hm]
  have hsum : (c.tokens.balance r.params.collateralAsset basket).add (m.account basket).collateral =
      .error .overflow := overflowing_ofNat?_eq_error.2 ⟨rfl, hfull⟩
  rw [Market.debtOf] at hdebt
  rw [balances, r.account_market hmarket hm, htotals]
  simp only [Except.mapError, bind, Except.bind, hdebt, hsum]

/-- Balances are a matter of the tokens and the pool alone. -/
theorem Record.balances_toBank (r : Record) {c c' : Chain} (h : c'.toBank = c.toBank)
    (basket : Address) : r.balances c' basket = r.balances c basket := by
  have htokens : c'.tokens = c.tokens := congrArg Bank.tokens h
  have hpool : c'.pool = c.pool := congrArg Bank.pool h
  rw [balances, balances, htokens, hpool]

/-- A balance can only be told of a market that there is. -/
theorem Record.exists_market {r : Record} {c : Chain} {basket : Address} {bal : Balances}
    (hmarket : r.market = r.params.id) (h : r.balances c basket = .ok bal) :
    ∃ m, c.pool.markets.get? r.params.id = some m := by
  obtain ⟨totals, htotals, -⟩ := Except.bind_eq_ok.1 h
  rw [Except.mapError_eq_ok, hmarket] at htotals
  cases hm : c.pool.markets.get? r.params.id with
  | some m => exact ⟨m, rfl⟩
  | none =>
    rw [Lending.Pool.totals, hm] at htotals
    cases htotals

namespace Operation

variable {α : Type} {s : Session} {basket : Address}

/-! ## Calls -/

@[simp]
theorem ends_lending {x : Bank.Call α} {Q : α → Session → Prop}
    {E : LeverageError → Session → Prop} :
    ((lending x).run s).Ends Q E ↔
      (x.run s.chain.toBank).Ends (fun a b => Q a (s.withBank b))
        fun e b => E (.lending e) (s.withBank b) := by
  rw [lending, onChain, Action.ends_mapError, Action.ends_within, Chain.ends_onBank]
  exact Iff.rfl

@[simp]
theorem ends_supplyOf {Q : Amount → Session → Prop} {E : LeverageError → Session → Prop} :
    ((supplyOf basket).run s).Ends Q E ↔
      (∀ b, s.chain.baskets.get? basket = some b → Q b.supply s) ∧
        (s.chain.baskets.get? basket = none → E (.ledger (.basketNotFound basket)) s) := by
  rw [supplyOf, Action.ends_bind, ends_ledger, Chain.ends_theBasket]
  exact Iff.rfl

theorem supplyOf_yields (basket : Address) (s : Session) :
    ((supplyOf basket).run s).Yields fun _ s' => s' = s := by
  simp only [Outcome.Yields, ends_supplyOf, implies_true, and_self]

theorem run_compute_eq_done {x : Except MathError α} {s' : Session} {a : α} :
    (compute x).run s = .done a s' ↔ x = .ok a ∧ s' = s := by
  cases x <;> simp [compute, Except.mapError, eq_comm]

theorem compute_yields (x : Except MathError α) (s : Session) :
    ((compute x).run s).Yields fun a s' => x = .ok a ∧ s' = s :=
  (Outcome.yields_self _).yields fun _ _ h => run_compute_eq_done.1 h

theorem run_balancesOf_eq_done {r : Record} {bal : Balances} {s' : Session} :
    (balancesOf r basket).run s = .done bal s' ↔ r.balances s.chain basket = .ok bal ∧ s' = s := by
  change (Action.ofExcept (r.balances s.chain basket)).run s = _ ↔ _
  cases r.balances s.chain basket <;> simp [eq_comm]

theorem run_balancesOf {r : Record} {bal : Balances} (h : r.balances s.chain basket = .ok bal) :
    (balancesOf r basket).run s = .done bal s := run_balancesOf_eq_done.2 ⟨h, rfl⟩

theorem run_balancesOf_error {r : Record} {e : LeverageError}
    (h : r.balances s.chain basket = .error e) : (balancesOf r basket).run s = .refused e s := by
  change (Action.ofExcept (r.balances s.chain basket)).run s = _
  rw [h]
  rfl

theorem run_lending_eq_done {x : Bank.Call α} {s' : Session} {a : α} :
    (lending x).run s = .done a s' ↔
      ∃ b, x.run s.chain.toBank = .done a b ∧ s' = s.withBank b := by
  rw [lending, onChain, Chain.onBank, Action.run_mapError, Action.run_within, Action.run_within]
  cases x.run s.chain.toBank with
  | done a' b =>
    constructor
    · intro h
      cases h
      exact ⟨b, rfl, rfl⟩
    · rintro ⟨b', hb, rfl⟩
      cases hb
      rfl
  | refused e b => simp
  | aborted => simp

/-- A call to the pool is handed over where it goes through. -/
theorem lending_yields (x : Bank.Call α) (s : Session) :
    ((lending x).run s).Yields fun a s' =>
      ∃ b, x.run s.chain.toBank = .done a b ∧ s' = s.withBank b :=
  (Outcome.yields_self _).yields fun _ _ h => run_lending_eq_done.1 h

/-! ## Books -/

section Books

variable {ε : Type} {books : Lending.Pool × FiniteMap Address Record × List EventPayload}

/-- A call on the chain that leaves the pool alone leaves the books of a session alone. -/
theorem keepsBooks_onChain {refusal : ε → LeverageError} {x : Action Chain ε α}
    (hx : ∀ pool, x.Keeps (Chain.Outside pool fun _ => True) fun _ => True) :
    (onChain refusal x).Keeps (fun s => s.books = books) fun _ => True := by
  rintro s rfl
  rw [onChain, Action.ends_mapError, Action.ends_within]
  have hbooks {c : Chain} (hc : c.pool = s.chain.pool) :
      ({ s with chain := c } : Session).books = s.books :=
    congrArg (fun pool : Lending.Pool => (pool, s.records, s.events)) hc
  refine (hx s.chain.pool s.chain ⟨rfl, trivial⟩).imp ?_ ?_
  · rintro a c ⟨hc, -⟩
    exact hbooks hc
  · rintro e c ⟨⟨hc, -⟩, -⟩
    exact ⟨hbooks hc, trivial⟩

theorem keepsBooks_basket (address : Address) (q : BasketRequest) :
    (ledger (q.perform address)).Keeps (fun s => s.books = books) fun _ => True :=
  keepsBooks_onChain fun _ => (TokenBook.stable_true fun _ => True).keeps_basketRequest address q
    fun _ _ => trivial

theorem keepsBooks_compute (x : Except MathError α) :
    (compute x).Keeps (fun s => s.books = books) fun _ => True :=
  .ofExcept fun _ _ => trivial

end Books

/-! ## Looking things up -/

/-- To ask whether the caller may is to change nothing. -/
theorem requireManager_yields (caller basket : Address) (s : Session) :
    ((requireManager caller basket).run s).Yields fun _ s' => s' = s := by
  simp only [requireManager, Action.ends_bind, Action.ends_read, Action.ends_require, ends_ledger,
    Chain.ends_theBasket, implies_true, and_true]

theorem requireIssuer_yields (caller basket : Address) (s : Session) :
    ((requireIssuer caller basket).run s).Yields fun _ s' => s' = s := by
  simp only [requireIssuer, Action.ends_bind, Action.ends_read, Action.ends_require, implies_true,
    and_true]
  intro _ _
  cases s.records.get? basket with
  | none => exact rfl
  | some r => simp

theorem recordOf_yields (d : Desk) (basket : Address) (s : Session) :
    ((recordOf d basket).run s).Yields fun r s' => s' = s ∧ s.records.get? basket = some r := by
  simp only [recordOf, Action.ends_bind, Action.ends_read, Action.ends_require,
    Action.ends_orRefuse, implies_true, and_true]
  intro _ r hr
  exact ⟨trivial, hr⟩

theorem enteredRecord_yields (d : Desk) (caller basket : Address) (s : Session) :
    ((enteredRecord d caller basket).run s).Yields fun r s' =>
      s' = s ∧ s.records.get? basket = some r := by
  rw [enteredRecord]
  refine Action.yields_bind (requireManager_yields caller basket s) ?_
  rintro _ _ rfl
  refine Action.yields_bind (recordOf_yields d basket _) ?_
  rintro r _ ⟨rfl, hr⟩
  simp only [Action.ends_bind, Action.ends_require, Action.run_pure, Outcome.ends_done,
    implies_true, and_true]
  exact fun _ => ⟨trivial, hr⟩

/-- The unit of a debt is the one that stands on the ledger. -/
theorem debtUnit_yields (d : Desk) (r : Record) (basket component : Address) (s : Session) :
    ((debtUnit d r basket component).run s).Yields fun unit s' => s' = s ∧
      component = r.params.loanAsset ∧ ∃ b, s.chain.baskets.get? basket = some b ∧
        unit = b.externalUnit r.params.loanAsset d.address ∧ unit.value.toInt < 0 := by
  simp only [debtUnit, Action.ends_bind, Action.ends_require, ends_ledger, Chain.ends_theBasket,
    Action.run_pure, Outcome.ends_done, implies_true, and_true]
  rintro rfl b hb hnegative
  exact ⟨trivial, rfl, b, hb, rfl, of_decide_eq_true hnegative⟩

/-! ## Writing units -/

/-- A desk's own unit is written in its place, and nothing else changes. -/
theorem writeExternal_yields (d : Desk) (basket component : Address) (unit : PositionUnit)
    (s : Session) : ((writeExternal d basket component unit).run s).Yields fun _ s' =>
      ∃ c, Chain.Wrote basket (.ofExternal component d.address unit) s.chain c ∧
        s' = { s with chain := c } := by
  rw [Outcome.Yields, writeExternal, Action.ends_bind, ends_ledger]
  refine (Chain.writePosition_spec basket _ s.chain).yields fun _ c hwrote => ?_
  exact ⟨c, hwrote, rfl⟩

theorem writeDefault_yields (basket component : Address) (unit : PositionUnit) (s : Session) :
    ((writeDefault basket component unit).run s).Yields fun _ s' =>
      ∃ c, Chain.Wrote basket (.ofDefault component unit) s.chain c ∧
        s' = { s with chain := c } := by
  rw [Outcome.Yields, writeDefault, Action.ends_bind, ends_ledger]
  refine (Chain.writePosition_spec basket _ s.chain).yields fun _ c hwrote => ?_
  exact ⟨c, hwrote, rfl⟩

/-- Positions are rewritten from balances that can be told; tokens and books stay as they are. -/
theorem writePositions_yields (d : Desk) (basket : Address) (r : Record) (supply : Amount)
    (s : Session) : ((writePositions d basket r supply).run s).Yields fun _ s' =>
      s'.books = s.books ∧ s'.chain.toBank = s.chain.toBank ∧
        ∃ bal, r.balances s.chain basket = .ok bal := by
  have hdebt (bal : Balances) (c : Chain) (hc : c.toBank = s.chain.toBank) :
      ((writeDebt d basket r bal.borrow supply).run { s with chain := c }).Yields fun _ s' =>
        s'.books = s.books ∧ s'.chain.toBank = s.chain.toBank := by
    simp only [Outcome.Yields, writeDebt, Action.ends_bind, ends_compute, Action.run_pure,
      Outcome.ends_done, implies_true, and_true]
    intro unit _
    refine (writeExternal_yields d basket _ unit _).yields ?_
    rintro _ _ ⟨c', hwrote, rfl⟩
    have hbank : c'.toBank = s.chain.toBank := hwrote.toBank.trans hc
    exact ⟨congrArg (fun b : Bank => (b.pool, s.records, s.events)) hbank, hbank⟩
  simp only [Outcome.Yields, writePositions, Action.ends_bind, ends_balancesOf, implies_true,
    and_true]
  intro bal hbal
  cases r.entered with
  | true =>
    simp only [if_true, Action.ends_bind, ends_compute, Action.run_pure, Outcome.ends_done,
      implies_true, and_true]
    intro unit _
    refine (writeExternal_yields d basket _ unit s).yields ?_
    rintro _ _ ⟨c, hwrote, rfl⟩
    refine (hdebt bal c hwrote.toBank).yields ?_
    rintro _ s' ⟨hbooks, hs'⟩
    exact ⟨hbooks, hs', bal, hbal⟩
  | false =>
    simp only [Bool.false_eq_true, if_false, Action.ends_bind, ends_ledger, Chain.ends_theBasket,
      Action.run_pure, Outcome.ends_done, implies_true, and_true]
    intro b _
    refine (hdebt bal s.chain rfl).yields ?_
    rintro _ s' ⟨hbooks, hs'⟩
    exact ⟨hbooks, hs', bal, hbal⟩

/-- **`c'` is `c` with a basket's debt unit brought up to date** for a supply: the market has
interest up to now, and the unit is what the debt comes to. -/
structure DebtSynced (d : Desk) (basket : Address) (r : Record) (supply : Amount) (m : Market)
    (bal : Balances) (unit : PositionUnit) (c c' : Chain) : Prop where
  accrued : ∃ m₀, c.pool.markets.get? r.params.id = some m₀ ∧ m₀.Accrued c.pool.now m
  balances : r.balances { c with toBank := c.toBank.booked r.params m } basket = .ok bal
  debt : PositionUnit.ofDebt bal.borrow supply = .ok unit
  wrote : Chain.Wrote basket (.ofExternal r.params.loanAsset d.address unit)
    { c with toBank := c.toBank.booked r.params m } c'

/-- Without a supply nothing is brought up to date. -/
theorem syncDebtForSupply_yields (d : Desk) (basket : Address) (r : Record) (supply : Amount)
    (s : Session) : ((syncDebtForSupply d basket r supply).run s).Yields fun _ s' =>
      s'.records = s.records ∧ (supply = 0 ∧ s'.chain = s.chain ∨
        ∃ m bal unit, DebtSynced d basket r supply m bal unit s.chain s'.chain) := by
  simp only [syncDebtForSupply, writeDebt, emitSynced, emit, Action.ends_bind, Action.ends_ite,
    ends_lending, ends_balancesOf, ends_compute, ends_ledger, Chain.ends_theBasket,
    Action.ends_modify, Action.run_pure, Outcome.ends_done, implies_true, and_true]
  refine ⟨fun hnone => ⟨trivial, .inl hnone⟩, fun _ => ?_⟩
  refine (Bank.accrue_spec r.params s.chain.toBank).yields ?_
  rintro _ _ ⟨m₀, m, hm₀, haccrued, rfl⟩ bal hbal unit hunit
  refine (writeExternal_yields d basket _ unit _).yields ?_
  rintro _ _ ⟨c, hwrote, rfl⟩ _ _ _ _
  exact ⟨rfl, .inr ⟨m, bal, unit, ⟨⟨m₀, hm₀, haccrued⟩, hbal, hunit, hwrote⟩⟩⟩

/-! ## Entering (`LeverageModule::enter_collateral_position`) -/

/-- **Entering** supplies collateral, keeps the record as entered, and says how much it was. The
rest of it is a matter of positions. -/
theorem enter_yields (caller basket : Address) (d : Desk) (s : Session) :
    ((Operation.enter caller basket d).run s).Yields fun _ s' => ∃ r notional unit,
      s.records.get? basket = some r ∧
        (Bank.supplyCollateral r.params basket notional).run s.chain.toBank =
          .done () s'.chain.toBank ∧
        s'.records = s.records.insert basket { r with entered := true } ∧
        s'.events =
          s.events ++ [.collateralEntered basket r.params.collateralAsset notional unit] := by
  rw [Operation.enter]
  refine Action.yields_bind (requireManager_yields caller basket s) ?_
  rintro _ _ rfl
  refine Action.yields_bind (recordOf_yields d basket _) ?_
  rintro r _ ⟨rfl, hr⟩
  simp only [Outcome.Yields, Action.ends_bind, Action.ends_require, ends_ledger,
    Chain.ends_theBasket, ends_compute, ends_lending, keep, Action.ends_modify, emit,
    Action.run_pure, Outcome.ends_done, implies_true, and_true]
  intro _ b _ _ notional _ _
  refine (Outcome.yields_self _).yields fun _ bank hsupply => ?_
  refine (writeDefault_yields basket _ _ _).yields ?_
  rintro _ _ ⟨c, hwrote, rfl⟩
  refine (writePositions_yields d basket _ _ _).yields ?_
  rintro report s' ⟨hbooks, hbank, -⟩
  obtain ⟨-, hrecords, hevents⟩ := Session.books_eq hbooks
  refine ⟨r, notional, report.collateralUnit, hr, ?_, hrecords, congrArg (· ++ _) hevents⟩
  rw [hbank, hwrote.toBank]
  exact hsupply

/-! ## Enrolling and letting go -/

/-- **Enrolling** gives a record to a basket that had none, if it is there and its market is, and
says so. -/
theorem enrol_yields (caller basket : Address) (params : MarketParams) (d : Desk) (s : Session) :
    ((enrol caller basket params d).run s).Yields fun _ s' => ∃ b m issuer,
      s.records.get? basket = none ∧ s.chain.baskets.get? basket = some b ∧
        s.chain.pool.markets.get? params.id = some m ∧
        s'.books = (s.chain.pool,
          s.records.insert basket ⟨params, params.id, false, [issuer]⟩,
          s.events ++ [.moduleInitialized basket params.id params issuer]) := by
  simp only [enrol, requireManager, requireStatus, Outcome.Yields, bind_assoc,
    Action.ends_bind (x := .read _), Action.ends_read, Action.ends_bind (x := .require _ _),
    Action.ends_require, Action.ends_bind (x := .orRefuse _ _), Action.ends_orRefuse,
    Action.ends_bind (x := ledger (Chain.theBasket _)), ends_ledger, Chain.ends_theBasket,
    Action.ends_bind (x := lending _), ends_lending, Bank.ends_market, implies_true, and_true]
  intro _ b hb _ _ hfree _ _ issuer _ _ m hm
  have hconfirm : (ledger (Chain.confirmModule basket d.address)).Keeps
      (fun s' => s'.books = s.books) fun _ => True :=
    keepsBooks_basket basket (.confirmModule d.address)
  have hregister : (ledger (Chain.registerHook issuer basket d.address)).Keeps
      (fun s' => s'.books = s.books) fun _ => True :=
    keepsBooks_basket basket (.registerHook issuer d.address)
  refine Action.yields_bind (hconfirm _ rfl) fun _ s₁ hs₁ => ?_
  refine Action.yields_bind (hregister s₁ hs₁) fun _ s₂ hs₂ => ?_
  refine ⟨b, m, issuer, ?_, hb, hm, ?_⟩
  · exact Option.not_isSome_iff_eq_none.1 (Bool.eq_false_iff.1 hfree)
  · obtain ⟨hpool, hrecords, hevents⟩ := Session.books_eq hs₂
    rw [← hpool, ← hrecords, ← hevents]
    rfl

/-- To register with another orchestrator rewrites the record, with the same market. -/
theorem registerIssuer_yields (caller basket issuer : Address) (d : Desk) (s : Session) :
    ((registerIssuer caller basket issuer d).run s).Yields fun _ s' => ∃ r,
      s.records.get? basket = some r ∧ s'.books = (s.chain.pool,
        s.records.insert basket
          { r with issuers := if issuer ∈ r.issuers then r.issuers else r.issuers ++ [issuer] },
        s.events ++ [.issuanceModuleRegistered basket issuer]) := by
  rw [registerIssuer]
  refine Action.yields_bind (requireManager_yields caller basket s) ?_
  rintro _ _ rfl
  refine Action.yields_bind (recordOf_yields d basket _) ?_
  rintro r s ⟨rfl, hr⟩
  simp only [requireStatus, Outcome.Yields, bind_assoc, Action.ends_bind (x := .read _),
    Action.ends_read, Action.ends_bind (x := .require _ _), Action.ends_require, implies_true,
    and_true]
  intro _
  have hregister : (ledger (Chain.registerHook issuer basket d.address)).Keeps
      (fun s' => s'.books = s.books) fun _ => True :=
    keepsBooks_basket basket (.registerHook issuer d.address)
  refine Action.yields_bind (hregister s rfl) fun _ s₁ hs₁ => ?_
  obtain ⟨hpool, hrecords, hevents⟩ := Session.books_eq hs₁
  refine ⟨r, hr, ?_⟩
  rw [← hpool, ← hrecords, ← hevents]
  rfl

/-- To restore collateral is to write positions. -/
theorem restoreCollateral_yields (d : Desk) (r : Record) (basket : Address) (s : Session) :
    ((restoreCollateral d r basket).run s).Yields fun _ s' =>
      ∃ c, c.toBank = s.chain.toBank ∧ s' = { s with chain := c } := by
  rw [restoreCollateral]
  refine Action.yields_bind (writeExternal_yields d basket _ _ s) ?_
  rintro _ _ ⟨c, hwrote, rfl⟩
  refine Action.yields_bind (supplyOf_yields basket _) ?_
  rintro supply _ rfl
  simp only [Outcome.Yields, Action.ends_ite, Action.run_pure, Outcome.ends_done]
  refine ⟨fun _ => ⟨c, hwrote.toBank, rfl⟩, fun _ => ?_⟩
  simp only [walletOf, Action.ends_bind, Action.ends_read, ends_compute, implies_true, and_true]
  intro unit _
  refine (writeDefault_yields basket _ unit _).yields ?_
  rintro _ _ ⟨c', hwrote', rfl⟩
  exact ⟨c', hwrote'.toBank.trans hwrote.toBank, rfl⟩

/-- **A release** forgets the basket and says so. Tokens and the pool stay as they are. -/
theorem release_yields (d : Desk) (r : Record) (basket : Address) (withdrawn : Amount)
    (s : Session) : ((release d r basket withdrawn).run s).Yields fun value s' =>
      value = withdrawn ∧ s'.chain.toBank = s.chain.toBank ∧
        s'.records = s.records.erase basket ∧
        s'.events = s.events ++ [.moduleRemoved basket withdrawn] := by
  have hforget (c : Chain) (hc : c.toBank = s.chain.toBank) :=
    (c.dropHooks_same basket d.address r.issuers).1.trans hc
  rw [release]
  refine Action.yields_bind (writeExternal_yields d basket _ _ s) ?_
  rintro _ _ ⟨c, hwrote, rfl⟩
  split
  · refine Action.yields_bind (restoreCollateral_yields d r basket _) ?_
    rintro _ _ ⟨c', hc', rfl⟩
    exact ⟨rfl, hforget c' (hc'.trans hwrote.toBank), rfl, rfl⟩
  · exact ⟨rfl, hforget c hwrote.toBank, rfl, rfl⟩

/-- **Letting go** accrues interest, withdraws all collateral, if there is any, and forgets the
basket. The value is what was withdrawn, and what is said of it. -/
theorem letGo_yields (caller basket : Address) (d : Desk) (s : Session) :
    ((letGo caller basket d).run s).Yields fun withdrawn s' => ∃ r b,
      s.records.get? basket = some r ∧
        (Bank.accrue r.params).run s.chain.toBank = .done () b ∧
        withdrawn = (b.pool.account r.market basket).collateral ∧
        (withdrawn = 0 ∧ s'.chain.toBank = b ∨
          (Bank.withdrawCollateral r.params basket withdrawn basket).run b =
            .done () s'.chain.toBank) ∧
        s'.records = s.records.erase basket ∧
        s'.events = s.events ++ [.moduleRemoved basket withdrawn] := by
  rw [letGo_eq]
  simp only [Outcome.Yields, Action.ends_bind (x := .require _ _), Action.ends_require,
    Action.ends_bind (x := .read _), Action.ends_read, Action.ends_bind (x := .orRefuse _ _),
    Action.ends_orRefuse, implies_true, and_true]
  intro _ r hr
  refine Action.yields_bind (lending_yields _ s) ?_
  rintro _ _ ⟨b, haccrue, rfl⟩
  simp only [Outcome.Yields, Action.ends_bind (x := .read _), Action.ends_read,
    Action.ends_bind (x := .require _ _), Action.ends_require, implies_true, and_true]
  intro _
  split
  case isTrue hnone =>
    refine (release_yields d r basket _ _).yields ?_
    rintro _ s' ⟨rfl, hbank, hrecords, hevents⟩
    exact ⟨r, b, hr, haccrue, rfl, .inl ⟨hnone, hbank⟩, hrecords, hevents⟩
  case isFalse =>
    refine Action.yields_bind (lending_yields _ _) ?_
    rintro _ _ ⟨b', hwithdraw, rfl⟩
    refine (release_yields d r basket _ _).yields ?_
    rintro _ s' ⟨rfl, hbank, hrecords, hevents⟩
    refine ⟨r, b, hr, haccrue, rfl, .inr ?_, hrecords, hevents⟩
    rw [hbank]
    exact hwithdraw

/-! ## Repaying (`LeverageModule::repay_capped`) -/

/-- What is repaid of a debt with so much at hand: all of it, by its shares, if what is at hand
covers it, and otherwise what is at hand. -/
def repayAmount (bal : Balances) (available : Amount) : RepayAmount :=
  if bal.borrow ≤ available then .shares bal.borrowShares else .assets available

/-- A capped repayment repays nothing if there is nothing to repay or to repay with. -/
theorem repayCapped_yields (r : Record) (basket : Address) (available : Amount) (s : Session) :
    ((repayCapped r basket available).run s).Yields fun repaid s' =>
      ∃ bal, r.balances s.chain basket = .ok bal ∧
        ((bal.borrowShares = 0 ∨ available = 0) ∧ repaid = 0 ∧ s' = s ∨
          ¬(bal.borrowShares = 0 ∨ available = 0) ∧ ∃ moved b,
            (Bank.repay r.params basket (repayAmount bal available)).run s.chain.toBank =
              .done moved b ∧
            repaid = moved.assets ∧ s' = s.withBank b) := by
  simp only [repayCapped, Action.ends_bind, ends_balancesOf, Action.ends_ite, ends_lending,
    Action.run_pure, Outcome.ends_done, implies_true, and_true]
  intro bal hbal
  refine ⟨fun hnone => ⟨bal, hbal, .inl hnone⟩, fun hsome => ?_⟩
  refine (Outcome.yields_self _).yields fun moved b hrun => ?_
  exact ⟨bal, hbal, .inr ⟨hsome, moved, b, hrun, rfl, rfl⟩⟩

/-- Where what is available covers the debt, a capped repayment repays all shares. -/
theorem repayCapped_covered {r : Record} {available : Amount} {bal : Balances}
    (hbal : r.balances s.chain basket = .ok bal) (howes : bal.borrowShares ≠ 0)
    (havailable : available ≠ 0) (hcovered : bal.borrow ≤ available) :
    (repayCapped r basket available).run s =
      (do
        let moved ← lending (Bank.repay r.params basket (.shares bal.borrowShares))
        pure moved.assets : Operation Amount).run s := by
  rw [repayCapped, Action.run_bind, run_balancesOf hbal]
  simp only [if_neg (not_or.2 ⟨howes, havailable⟩), if_pos hcovered]

end Operation

/-! ## Operations and their sessions -/

/-- **An operation goes through** if its session does, and if what it has said can be put in the
log. -/
theorem World.operate_eq_done {α : Type} {op : Desk → Operation α} {w w' : World} {a : α} :
    (World.operate op).run w = .done a w' ↔
      ∃ s desk, (op w.desk).run ⟨w.chain, w.desk.records, []⟩ = .done a s ∧
        { w.desk with records := s.records }.publish? s.events = some desk ∧
        w' = ⟨s.chain, desk⟩ := by
  change World.operate op w = _ ↔ ∃ s desk, op w.desk ⟨w.chain, w.desk.records, []⟩ = _ ∧ _ ∧ _
  unfold World.operate
  generalize op w.desk ⟨w.chain, w.desk.records, []⟩ = outcome
  cases outcome with
  | done b s =>
    constructor
    · intro h
      dsimp only at h
      split at h
      case h_1 desk hdesk =>
        cases h
        exact ⟨s, desk, rfl, hdesk, rfl⟩
      case h_2 => cases h
    · rintro ⟨s', desk, hrun, hdesk, rfl⟩
      cases hrun
      dsimp only
      rw [hdesk]
  | refused e s => simp
  | aborted => simp

/-- An operation that has gone through has handed over a session that went through. -/
theorem World.operate_yields {α : Type} {op : Desk → Operation α} {w w' : World} {a : α}
    (h : (World.operate op).run w = .done a w') :
    ∃ s log, (op w.desk).run ⟨w.chain, w.desk.records, []⟩ = .done a s ∧
      w' = ⟨s.chain, { w.desk with records := s.records, log := log }⟩ := by
  obtain ⟨s, desk, hrun, hdesk, rfl⟩ := World.operate_eq_done.1 h
  obtain ⟨log, rfl⟩ := publish?_eq_some hdesk
  exact ⟨s, log, hrun, rfl⟩

/-- The same of an operation whose value nobody looks at. -/
theorem World.forget_operate_yields {α : Type} {op : Desk → Operation α} {w w' : World}
    (h : (do let _ ← World.operate op : Action World LeverageError Unit).run w = .done () w') :
    ∃ a s log, (op w.desk).run ⟨w.chain, w.desk.records, []⟩ = .done a s ∧
      w' = ⟨s.chain, { w.desk with records := s.records, log := log }⟩ := by
  obtain ⟨a, hrun⟩ := Action.run_forget_eq_done.1 h
  exact ⟨a, World.operate_yields hrun⟩

/-- An operation that keeps the records leaves the world in order, with the same records. -/
theorem World.operate_conducted {known : Set Lending.MarketParams} {w w' : World}
    {basket : Address} {α : Type} {op : Desk → Operation α} {a : α} (hw : w.Orderly known)
    (h : (hw.errand basket).Conducts w.desk.records (op w.desk))
    (hrun : (World.operate op).run w = .done a w') :
    w'.Orderly known ∧ w'.desk.records = w.desk.records := by
  obtain ⟨s, log, hdone, rfl⟩ := World.operate_yields hrun
  have hfollows : (hw.errand basket).Follows w.desk.records s :=
    (h _ (hw.follows basket)).done hdone
  refine ⟨⟨hfollows.chain.tidy, ?_⟩, hfollows.records⟩
  exact hfollows.records.symm ▸ hw.records

end Leverage

end LeveredBasket
