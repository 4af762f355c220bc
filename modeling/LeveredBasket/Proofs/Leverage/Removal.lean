/-
A basket that owes nothing can let the desk go.

Letting go (`LeverageModule::remove_module`) withdraws all of the basket's
collateral, and none of its steps fails for a basket without a debt. The pool has
the collateral, because it has what it owes (`Custody`). What the record points at
is there (`Grounded`). Interest and the unit of the collateral have to fit into
their widths; nothing else can go wrong, so that letting go succeeds
(`Outcome.Succeeds`).

What is left behind is read off the same steps: the collateral is in the wallet
again, and the desk has no position, no record and no hook of the basket.
-/
import LeveredBasket.Proofs.Lending.Bystanders
import LeveredBasket.Proofs.Lending.Custody
import LeveredBasket.Proofs.Ledger
import LeveredBasket.Proofs.Leverage.Grounding

set_option autoImplicit false

namespace LeveredBasket

open Lending (Bank Market MarketParams)

/-! ## What letting go leaves behind -/

/-- **`b'` is `b` with all collateral of an account withdrawn** into the wallet of its holder. -/
structure Lending.Bank.Emptied (params : MarketParams) (who : Address) (b b' : Bank) : Prop where
  collateral : (b'.pool.account params.id who).collateral = 0
  wallet : (b'.tokens.balance params.collateralAsset who).toNat =
    (b.tokens.balance params.collateralAsset who).toNat +
      (b.pool.account params.id who).collateral.toNat

namespace Leverage

/-- **The desk is off the books of a basket**: it has no position in the loan asset, nor in
collateral that had been entered. What the basket has of that collateral is a default position. -/
structure OffBooks (holder basket : Address) (r : Record) (c c' : Chain) : Prop where
  positions : ∀ p ∈ c'.positions basket, p.isExternalOf holder = true →
    p.component ≠ r.params.loanAsset ∧ (r.entered = true → p.component ≠ r.params.collateralAsset)
  unit : ∃ b b', c.baskets.get? basket = some b ∧ c'.baskets.get? basket = some b' ∧
    b'.supply = b.supply ∧ (r.entered = true → 0 < b.supply.toNat →
      (b'.defaultUnit r.params.collateralAsset).value.toInt =
        ((c'.tokens.balance r.params.collateralAsset basket).toNat * Amount.one.toNat /
          b.supply.toNat : Nat))

/-- **`c'` is `c` with the collateral of a basket restored**: the desk has no unit of it any more,
and the basket has a unit of its own for what is in the wallet. -/
structure Restored (holder basket : Address) (r : Record) (b b' : Basket) (c c' : Chain) :
    Prop where
  bank : c'.toBank = c.toBank
  tidy : c'.Tidy
  found : c'.baskets.get? basket = some b'
  supply : b'.supply = b.supply
  external : ∀ x, b'.externalUnit x holder =
    if x = r.params.collateralAsset then .zero else b.externalUnit x holder
  unit : 0 < b.supply.toNat → (b'.defaultUnit r.params.collateralAsset).value.toInt =
    ((c'.tokens.balance r.params.collateralAsset basket).toNat * Amount.one.toNat /
      b.supply.toNat : Nat)

/-- **`s'` is `s` with a basket released**: tokens and the pool are as they were, and the basket is
not in the books, the records or the hooks of the desk. -/
structure Released (d : Desk) (basket : Address) (r : Record) (withdrawn : Amount)
    (s s' : Session) : Prop where
  bank : s'.chain.toBank = s.chain.toBank
  books : OffBooks d.address basket r s.chain s'.chain
  records : s'.records = s.records.erase basket
  hooks : ∀ issuer ∈ r.issuers, d.address ∉ s'.chain.hooksOf issuer basket
  events : s'.events = s.events ++ [.moduleRemoved basket withdrawn]

/-- **The basket has let the desk go.** All collateral of the market is in the wallet again, and
the desk has no position, no record and no hook left that it had. -/
structure World.LetGo (basket : Address) (r : Record) (w w' : World) : Prop where
  collateral : (w'.chain.pool.account r.market basket).collateral = 0
  wallet : (w'.chain.tokens.balance r.params.collateralAsset basket).toNat =
    (w.chain.tokens.balance r.params.collateralAsset basket).toNat +
      (w.chain.pool.account r.market basket).collateral.toNat
  books : OffBooks w.desk.address basket r w.chain w'.chain
  record : w'.desk.records.get? basket = none
  hooks : ∀ issuer ∈ r.issuers, w.desk.address ∉ w'.chain.hooksOf issuer basket

end Leverage

/-! ## Calls on the pool that succeed -/

namespace Lending.Bank

variable {known : Set MarketParams} {address : Address} {b : Bank} {params : MarketParams}
variable {m : Market} {α : Type}

@[simp]
theorem succeeds_compute {x : Except MathError α} {Q : α → Bank → Prop} :
    ((compute x).run b).Succeeds Q ↔ ∃ a, x = .ok a ∧ Q a b := by
  cases x <;> simp [compute, Except.mapError]

@[simp]
theorem succeeds_market {Q : Market → Bank → Prop} :
    ((market params).run b).Succeeds Q ↔
      ∃ m, b.pool.markets.get? params.id = some m ∧ Q m b := by
  simp [market]

@[simp]
theorem succeeds_book {Q : Unit → Bank → Prop} :
    ((book params m).run b).Succeeds Q ↔ Q () (b.booked params m) := Iff.rfl

/-- Who has the tokens can move them. -/
theorem succeeds_move {asset sender recipient : Address} {amount : Amount}
    (hconserved : b.TokensConserved)
    (hcovered : amount.toNat ≤ (b.tokens.balance asset sender).toNat) :
    ((move asset sender recipient amount).run b).Succeeds fun _ b' =>
      ∃ t, TokenBook.Transferred asset sender recipient amount b.tokens t ∧
        b' = { b with tokens := t } := by
  refine (move_spec asset sender recipient amount b).succeeds
    (finishes_move asset sender recipient amount b hconserved).1 ?_
  rintro e b' ⟨-, -, hshort⟩
  exact absurd hcovered (Nat.not_le.2 hshort)

/-- Interest is refused only for what does not fit, or for want of a market. -/
theorem accrue_refuses (params : MarketParams) (b : Bank) :
    ((accrue params).run b).Ends (fun _ _ => True) fun e _ =>
      (∃ x, e = .math x) ∨ b.pool.markets.get? params.id = none := by
  simp only [accrue, Action.ends_bind, Action.ends_read, Action.ends_ite, ends_market,
    ends_compute, ends_book, Action.run_pure, Outcome.ends_done, LendingError.math.injEq,
    exists_eq', true_or, implies_true, and_self, true_and]
  exact fun hnone => .inr hnone

/-- **Interest** of a market that is there accrues, if it fits. -/
theorem accrue_done (hm : b.pool.markets.get? params.id = some m)
    (hfits : ∀ e b', (accrue params).run b ≠ .refused (.math e) b') :
    ∃ m', m.Accrued b.pool.now m' ∧ (accrue params).run b = .done () (b.booked params m') := by
  cases hrun : (accrue params).run b with
  | done u b' =>
    obtain ⟨m₀, m', hm₀, haccrued, rfl⟩ := (accrue_spec params b).done hrun
    obtain rfl : m₀ = m := Option.some.inj (hm₀.symm.trans hm)
    exact ⟨m', haccrued, rfl⟩
  | refused e b' =>
    rcases (accrue_refuses params b).refused hrun with ⟨x, rfl⟩ | hnone
    · exact absurd hrun (hfits x b')
    · rw [hm] at hnone
      cases hnone
  | aborted =>
    exact absurd hrun (finishes_accrue (I := fun _ => True) (fun _ _ _ h => h) params b trivial).1

/-- **Without a debt collateral can be withdrawn.** The pool has it, because it has what it owes. -/
theorem succeeds_withdrawCollateral {who : Address} {amount : Amount}
    (hb : b.Custody known address) (hknown : Set.InjOn MarketParams.id known)
    (hparams : params ∈ known) (hm : b.pool.markets.get? params.id = some m)
    (hsettled : b.pool.now ≤ m.totals.lastUpdate) (howes : (m.account who).borrowShares = 0)
    (hsome : amount ≠ 0) (hcovered : amount ≤ (m.account who).collateral) (receiver : Address) :
    ((withdrawCollateral params who amount receiver).run b).Succeeds fun _ _ => True := by
  have hleft : ((m.account who).collateral.truncatedSub amount).toNat + amount.toNat =
      (m.account who).collateral.toNat := Nat.sub_add_cancel hcovered
  let left := m.setAccount who
    { m.account who with collateral := (m.account who).collateral.truncatedSub amount }
  have hspare : Spare known address params left (0 + amount.toNat) 0 (b.booked params left) := by
    refine (hb.spare hknown hparams hm).booked _ _ rfl ?_ (Nat.le_refl _)
    rw [Nat.zero_add, Market.held_collateral_sub hleft]
    exact Nat.le_refl _
  -- without a debt an account is healthy at any price
  have hhealthy : left.isHealthy who (b.pool.price params) = .ok true := by
    have hdebt : (left.account who).borrowShares = 0 := by
      rw [Market.account_setAccount, if_pos rfl]
      exact howes
    simp [Market.isHealthy, hdebt]
  rw [withdrawCollateral, Action.succeeds_bind, Action.succeeds_require]
  refine ⟨hsome, ?_⟩
  rw [Action.run_bind_of_done (accrue_settled hm hsettled), Action.succeeds_bind, succeeds_market]
  refine ⟨m, hm, ?_⟩
  simp only [Action.succeeds_bind, Action.succeeds_read, Action.succeeds_require, succeeds_book,
    succeeds_compute]
  refine ⟨hcovered, true, hhealthy, rfl, ?_⟩
  refine (succeeds_move hspare.custody.conserved ?_).imp fun _ _ _ => trivial
  have hcovers := hspare.covers_collateral
  rwa [← hspare.custody.located] at hcovers

/-- An account without collateral is emptied as it is. -/
theorem Emptied.refl {who : Address} (h : (b.pool.account params.id who).collateral = 0) :
    Emptied params who b b := by
  refine ⟨h, ?_⟩
  rw [h, Word.toNat_zero, Nat.add_zero]

/-- Interest is no collateral. -/
theorem Emptied.of_accrued {who : Address} {b' : Bank} {m' : Market}
    (hm : b.pool.markets.get? params.id = some m) (hm' : m.Accrued b.pool.now m')
    (h : Emptied params who (b.booked params m') b') : Emptied params who b b' := by
  have haccount : (b.booked params m').pool.account params.id who =
      b.pool.account params.id who := by
    rw [Pool.account, Pool.account, get?_booked_self, hm]
    exact hm'.account who
  refine ⟨h.collateral, ?_⟩
  rw [h.wallet, haccount, booked_tokens]

/-- Without a debt all collateral can be withdrawn, by anyone but the pool. -/
theorem succeeds_withdrawAll {who : Address} (hb : b.Custody known address)
    (hknown : Set.InjOn MarketParams.id known) (hparams : params ∈ known)
    (hm : b.pool.markets.get? params.id = some m) (hsettled : b.pool.now ≤ m.totals.lastUpdate)
    (howes : (m.account who).borrowShares = 0) (hsome : (m.account who).collateral ≠ 0)
    (hwho : who ≠ address) :
    ((withdrawCollateral params who (m.account who).collateral who).run b).Succeeds
      fun _ b' => Emptied params who b b' := by
  have hsucceeds := succeeds_withdrawCollateral hb hknown hparams hm hsettled howes hsome
    (Nat.le_refl _) who
  refine (hsucceeds.and_ends (withdrawCollateral_ends params who _ who b)).imp ?_
  rintro _ _ ⟨-, m₀, m₁, m₂, t, hm₀, haccrued, -, -, -, hleft, -, ht, rfl⟩
  obtain rfl : m = m₀ := Option.some.inj (hm.symm.trans hm₀)
  have haccount : b.pool.account params.id who = m.account who := by
    rw [Pool.account, hm]
  constructor
  · have haccount' : ({ b.booked params m₂ with tokens := t } : Bank).pool.account params.id who =
        m₂.account who := by
      rw [Pool.account, get?_booked_self]
    rw [haccount']
    rw [haccrued.account] at hleft
    exact Word.ext (by rw [Word.toNat_zero]; omega)
  · rw [haccount, ht.received, countIf_pos rfl]
    rw [hb.located]
    exact hwho.symm

end Lending.Bank

/-! ## Calls on the ledger that succeed -/

/-- The unit of a holding fits if the holding over the supply does. -/
theorem PositionUnit.exists_ofHolding {holding supply : Amount} (hsupply : 0 < supply.toNat)
    (hfits : holding.toNat * Amount.one.toNat / supply.toNat < 1 <<< 127) :
    ∃ u, PositionUnit.ofHolding holding supply = .ok u := by
  have hwide : holding.toNat * Amount.one.toNat / supply.toNat < 1 <<< 128 :=
    hfits.trans_le (one_shiftLeft_mono (by decide))
  let size : Amount := ⟨holding.toNat * Amount.one.toNat / supply.toNat, hwide⟩
  let unit : PositionUnit := ⟨⟨size.toNat, (Int.neg_nonpos_of_nonneg (Int.natCast_nonneg _)).trans
    (Int.natCast_nonneg _), Int.ofNat_lt.2 hfits⟩⟩
  have hsize : Amount.preciseDiv holding supply = .ok size :=
    Amount.mulDivDown_eq_ok.2 ⟨hsupply, rfl⟩
  have hunit : PositionUnit.positive size = .ok unit := PositionUnit.positive_eq_ok.2 rfl
  exact ⟨unit, Except.bind_eq_ok.2 ⟨size, hsize, hunit⟩⟩

namespace Chain

variable {c c' : Chain} {address holder : Address} {b : Basket}

@[simp]
theorem succeeds_theBasket {Q : Basket → Chain → Prop} :
    ((theBasket address).run c).Succeeds Q ↔
      ∃ b, c.baskets.get? address = some b ∧ Q b c := by
  change ((Action.ofExcept (c.basket address)).run c).Succeeds Q ↔ _
  unfold basket
  cases c.baskets.get? address <;> simp

/-- **A position can be written** for a basket that is there, unless it is a default position below
zero. -/
theorem succeeds_writePosition {p : Position} (hb : c.baskets.get? address = some b)
    (hp : ¬(p.kind = .default ∧ p.unit.isNegative = true)) :
    ((writePosition address p).run c).Succeeds fun _ c' => Wrote address p c c' := by
  have hdone : ((writePosition address p).run c).Succeeds fun _ _ => True := by
    simp only [writePosition, requireUnit, Action.succeeds_bind, Action.succeeds_require,
      succeeds_theBasket, Action.succeeds_ite, Action.succeeds_modify, Action.run_pure,
      Outcome.succeeds_done, implies_true, and_true]
    exact ⟨hp, b, hb⟩
  exact (hdone.and_ends (writePosition_spec address p c)).imp fun _ _ h => h.2

end Chain

namespace Leverage

/-! ## The books of a basket -/

section Books

variable {d : Desk} {holder basket : Address} {r : Record} {c c' : Chain} {b b' : Basket}

/-- Where a module's unit of a component is zero, it has no position in the component. -/
theorem component_ne_of_unit (hc : c.Tidy) (hb : c.baskets.get? basket = some b)
    {component : Address} (hunit : b.externalUnit component holder = .zero) {p : Position}
    (hp : p ∈ c.positions basket) (hexternal : p.isExternalOf holder = true) :
    p.component ≠ component := by
  intro hcomponent
  rw [Chain.positions, hb] at hp
  apply (hc basket b hb).not_mem_of_unit hunit hp
  simp only [Position.isExternalOf, Bool.and_eq_true, decide_eq_true_eq] at hexternal
  rw [Position.place, hcomponent, hexternal.1, hexternal.2, Position.place_ofExternal]

/-- The last step of a release drops the hooks and the record, and says so. -/
theorem Released.of_books {s : Session} {withdrawn : Amount} (hbank : c.toBank = s.chain.toBank)
    (hbooks : OffBooks d.address basket r s.chain c) :
    Released d basket r withdrawn s
      { chain := r.issuers.foldl (fun c issuer => c.dropHook issuer basket d.address) c
        records := s.records.erase basket
        events := s.events ++ [.moduleRemoved basket withdrawn] } := by
  obtain ⟨hsame, hbaskets⟩ := c.dropHooks_same basket d.address r.issuers
  refine ⟨hsame.trans hbank, ⟨?_, ?_⟩, rfl, fun issuer hissuer => ?_, rfl⟩
  · unfold Chain.positions
    rw [hbaskets]
    exact hbooks.positions
  · rw [hbaskets, congrArg Bank.tokens hsame]
    exact hbooks.unit
  · rw [← List.count_eq_zero, Chain.count_dropHooks, if_pos ⟨rfl, hissuer⟩]

/-- Interest leaves the account as it is that a record points at. -/
theorem Record.account_accrued (hmarket : r.market = r.params.id) (bank : Bank) {m m' : Market}
    {now : Word 64} (h : m.Accrued now m') (basket : Address) :
    (bank.booked r.params m').pool.account r.market basket = m.account basket := by
  rw [Lending.Pool.account, hmarket, Bank.get?_booked_self]
  exact h.account basket

end Books

namespace Operation

variable {α : Type} {s : Session} {basket : Address} {b : Basket}

@[simp]
theorem succeeds_ledger {x : Chain.Call α} {Q : α → Session → Prop} :
    ((ledger x).run s).Succeeds Q ↔
      (x.run s.chain).Succeeds fun a c => Q a { s with chain := c } := by
  rw [ledger, onChain, Action.succeeds_mapError, Action.succeeds_within]

@[simp]
theorem succeeds_lending {x : Bank.Call α} {Q : α → Session → Prop} :
    ((lending x).run s).Succeeds Q ↔
      (x.run s.chain.toBank).Succeeds fun a b => Q a (s.withBank b) := by
  rw [lending, onChain, Action.succeeds_mapError, Action.succeeds_within, Chain.onBank,
    Action.succeeds_within]
  exact Iff.rfl

@[simp]
theorem succeeds_compute {x : Except MathError α} {Q : α → Session → Prop} :
    ((compute x).run s).Succeeds Q ↔ ∃ a, x = .ok a ∧ Q a s := by
  cases x <;> simp [compute, Except.mapError]

/-- A desk's own unit can be written whatever it is. -/
theorem succeeds_writeExternal (d : Desk) (component : Address) (unit : PositionUnit)
    (hb : s.chain.baskets.get? basket = some b) :
    ((writeExternal d basket component unit).run s).Succeeds fun _ s' =>
      ∃ c, Chain.Wrote basket (.ofExternal component d.address unit) s.chain c ∧
        s' = { s with chain := c } := by
  rw [writeExternal, Action.succeeds_bind, succeeds_ledger]
  refine (Chain.succeeds_writePosition hb ?_).imp fun _ c hwrote => ⟨c, hwrote, rfl⟩
  simp [Position.ofExternal]

/-- A basket's own unit can be written if it is not below zero. -/
theorem succeeds_writeDefault (component : Address) {unit : PositionUnit}
    (hunit : 0 ≤ unit.value.toInt) (hb : s.chain.baskets.get? basket = some b) :
    ((writeDefault basket component unit).run s).Succeeds fun _ s' =>
      ∃ c, Chain.Wrote basket (.ofDefault component unit) s.chain c ∧
        s' = { s with chain := c } := by
  rw [writeDefault, Action.succeeds_bind, succeeds_ledger]
  refine (Chain.succeeds_writePosition hb ?_).imp fun _ c hwrote => ⟨c, hwrote, rfl⟩
  rintro ⟨-, hnegative⟩
  exact absurd (of_decide_eq_true hnegative) (Int.not_lt.2 hunit)

/-- **Collateral is restored**, if its unit fits. -/
theorem succeeds_restoreCollateral (d : Desk) (r : Record) (hc : s.chain.Tidy)
    (hb : s.chain.baskets.get? basket = some b)
    (hfits : 0 < b.supply.toNat →
      (s.chain.tokens.balance r.params.collateralAsset basket).toNat * Amount.one.toNat /
        b.supply.toNat < 1 <<< 127) :
    ((restoreCollateral d r basket).run s).Succeeds fun _ s' => ∃ c b',
      Restored d.address basket r b b' s.chain c ∧ s' = { s with chain := c } := by
  rw [restoreCollateral, Action.succeeds_bind]
  refine (succeeds_writeExternal d _ _ hb).imp ?_
  rintro _ _ ⟨c, hwrote, rfl⟩
  obtain ⟨b₁, hb₁, hsupply, hexternal, -⟩ := hwrote.external hc hb
  have hunits (x : Address) : b₁.externalUnit x d.address =
      if x = r.params.collateralAsset then .zero else b.externalUnit x d.address := by
    simpa using hexternal x d.address
  have hc₁ : c.Tidy := hc.wrote hwrote
  simp only [supplyOf, walletOf, Action.succeeds_bind, succeeds_ledger, Chain.succeeds_theBasket,
    Action.run_pure, Outcome.succeeds_done, Action.succeeds_ite, Action.succeeds_read,
    succeeds_compute]
  refine ⟨b₁, hb₁, fun hnone => ?_, fun hsome => ?_⟩
  · -- a basket without supply has no units
    refine ⟨c, b₁, ⟨hwrote.toBank, hc₁, hb₁, hsupply, hunits, fun hpos => ?_⟩, rfl⟩
    rw [← hsupply, hnone] at hpos
    exact absurd hpos (Nat.lt_irrefl 0)
  · have hpos : 0 < b₁.supply.toNat := Amount.toNat_pos_iff.2 hsome
    have htokens : c.tokens = s.chain.tokens := congrArg Bank.tokens hwrote.toBank
    rw [← hsupply, ← htokens] at hfits
    obtain ⟨unit, hunit⟩ := PositionUnit.exists_ofHolding hpos (hfits hpos)
    have hvalue := (PositionUnit.ofHolding_eq_ok hunit).2
    refine ⟨unit, hunit, ?_⟩
    have hnonneg : 0 ≤ unit.value.toInt := hvalue ▸ Int.natCast_nonneg _
    refine (succeeds_writeDefault (s := { s with chain := c }) _ hnonneg hb₁).imp ?_
    rintro _ _ ⟨c', hwrote', rfl⟩
    obtain ⟨b', hb', hsupply', hdefault, hexternal'⟩ := hwrote'.default hc₁ hb₁
    refine ⟨c', b', ⟨hwrote'.toBank.trans hwrote.toBank, hc₁.wrote hwrote', hb',
      hsupply'.trans hsupply, fun x => ?_, fun _ => ?_⟩, rfl⟩
    · rw [hexternal', hunits]
    · have htokens' : c'.tokens = c.tokens := congrArg Bank.tokens hwrote'.toBank
      rw [hdefault, if_pos rfl, hvalue, htokens', hsupply]

/-- **The basket is released**, if the unit of its collateral fits. -/
theorem succeeds_release (d : Desk) (r : Record) (withdrawn : Amount) (hc : s.chain.Tidy)
    (hb : s.chain.baskets.get? basket = some b)
    (hfits : r.entered = true → 0 < b.supply.toNat →
      (s.chain.tokens.balance r.params.collateralAsset basket).toNat * Amount.one.toNat /
        b.supply.toNat < 1 <<< 127) :
    ((release d r basket withdrawn).run s).Succeeds fun value s' =>
      value = withdrawn ∧ Released d basket r withdrawn s s' := by
  rw [release, Action.succeeds_bind]
  refine (succeeds_writeExternal d _ _ hb).imp ?_
  rintro _ _ ⟨c, hwrote, rfl⟩
  obtain ⟨b₁, hb₁, hsupply, hexternal, -⟩ := hwrote.external hc hb
  have hc₁ : c.Tidy := hc.wrote hwrote
  have hloan : b₁.externalUnit r.params.loanAsset d.address = .zero := by
    simpa using hexternal r.params.loanAsset d.address
  have htokens : c.tokens = s.chain.tokens := congrArg Bank.tokens hwrote.toBank
  split
  case isTrue hentered =>
    rw [← htokens, ← hsupply] at hfits
    rw [Action.succeeds_bind]
    refine (succeeds_restoreCollateral (s := { s with chain := c }) d r hc₁ hb₁
      (hfits hentered)).imp ?_
    rintro _ _ ⟨c', b', hrestored, rfl⟩
    refine ⟨rfl, Released.of_books (hrestored.bank.trans hwrote.toBank) ⟨fun p hp hp' => ?_, ?_⟩⟩
    · have hunits := hrestored.external
      constructor
      · apply component_ne_of_unit hrestored.tidy hrestored.found _ hp hp'
        rw [hunits, hloan, ite_self]
      · intro _
        apply component_ne_of_unit hrestored.tidy hrestored.found _ hp hp'
        rw [hunits, if_pos rfl]
    · refine ⟨b, b', hb, hrestored.found, hrestored.supply.trans hsupply, fun _ => ?_⟩
      rw [← hsupply]
      exact hrestored.unit
  case isFalse hentered =>
    refine ⟨rfl, Released.of_books hwrote.toBank ⟨fun p hp hp' => ⟨?_, ?_⟩, ?_⟩⟩
    · exact component_ne_of_unit hc₁ hb₁ hloan hp hp'
    · exact fun h => absurd h hentered
    · exact ⟨b, b₁, hb, hb₁, hsupply, fun h => absurd h hentered⟩

section LetGo

variable {known : Set MarketParams} {d : Desk} {r : Record} {m : Market} {bank : Bank}

/-- A basket lets the desk go by accruing interest, and by what then comes of its account. -/
theorem letGo_run (hr : s.records.get? basket = some r)
    (haccrue : (Bank.accrue r.params).run s.chain.toBank = .done () bank)
    {account : Lending.Account} (haccount : bank.pool.account r.market basket = account) :
    (letGo basket basket d).run s = (do
      .require (account.borrowShares = 0) (.borrowOutstanding account.borrowShares)
      if account.collateral = 0 then pure ()
      else lending (Bank.withdrawCollateral r.params basket account.collateral basket)
      release d r basket account.collateral : Operation Amount).run (s.withBank bank) := by
  have hlending : (lending (Bank.accrue r.params)).run s = .done () (s.withBank bank) :=
    run_lending_eq_done.2 ⟨bank, haccrue, rfl⟩
  rw [letGo_eq, Action.require_pos rfl, pure_bind, Action.run_bind_of_done (Action.run_read _ s),
    hr, Action.orRefuse_some, pure_bind, Action.run_bind_of_done hlending,
    Action.run_bind_of_done (Action.run_read _ _)]
  rw [← haccount]
  rfl

/-- **Who owes something cannot let the desk go.** -/
theorem letGo_refused (hr : s.records.get? basket = some r)
    (haccrue : (Bank.accrue r.params).run s.chain.toBank = .done () bank)
    {account : Lending.Account} (haccount : bank.pool.account r.market basket = account)
    (howes : account.borrowShares ≠ 0) :
    (letGo basket basket d).run s =
      .refused (.borrowOutstanding account.borrowShares) (s.withBank bank) := by
  rw [letGo_run hr haccrue haccount, Action.require_neg howes]
  rfl

/-- **Who owes nothing lets the desk go**, and has all collateral back. -/
theorem succeeds_letGo {address : Address} (hc : s.chain.Tidy)
    (hb : s.chain.baskets.get? basket = some b) (hbank : s.chain.toBank.Custody known address)
    (hknown : Set.InjOn MarketParams.id known) (hr : s.records.get? basket = some r)
    (hsound : r.Sound known) (hbasket : basket ≠ address)
    (hm : s.chain.pool.markets.get? r.params.id = some m)
    (haccrue : ∀ e bank, (Bank.accrue r.params).run s.chain.toBank ≠ .refused (.math e) bank)
    (howes : (m.account basket).borrowShares = 0)
    (hfits : r.entered = true → 0 < b.supply.toNat →
      ((s.chain.tokens.balance r.params.collateralAsset basket).toNat +
        (m.account basket).collateral.toNat) * Amount.one.toNat / b.supply.toNat < 1 <<< 127) :
    ((letGo basket basket d).run s).Succeeds fun value s' =>
      value = (m.account basket).collateral ∧ ∃ bank,
        Bank.Emptied r.params basket s.chain.toBank bank ∧
          Released d basket r value (s.withBank bank) s' := by
  obtain ⟨m₁, haccrued, hdone⟩ := Bank.accrue_done hm haccrue
  have hguarded : Bank.Guarded known address False _ (Bank.accrue r.params) :=
    Bank.guarded_accrue hknown hsound.known
  have hcustody : (s.chain.toBank.booked r.params m₁).Custody known address :=
    (hguarded _ hbank).done hdone
  have hsame : m₁.account basket = m.account basket := haccrued.account basket
  have haccount := r.account_accrued hsound.market s.chain.toBank haccrued basket
  rw [letGo_run hr hdone haccount, Action.require_pos howes, pure_bind]
  have hrelease (bank : Bank) (hemptied : Bank.Emptied r.params basket s.chain.toBank bank) :
      ((release d r basket (m.account basket).collateral).run (s.withBank bank)).Succeeds
        fun value s' => value = (m.account basket).collateral ∧ ∃ bank,
          Bank.Emptied r.params basket s.chain.toBank bank ∧
            Released d basket r value (s.withBank bank) s' := by
    have hwallet : (bank.tokens.balance r.params.collateralAsset basket).toNat = _ :=
      hemptied.wallet
    rw [Lending.Pool.account, hm] at hwallet
    rw [← hwallet] at hfits
    refine (succeeds_release (s := s.withBank bank) d r _ hc hb hfits).imp ?_
    rintro _ s' ⟨rfl, hreleased⟩
    exact ⟨rfl, bank, hemptied, hreleased⟩
  split
  case isTrue hnone =>
    refine hrelease _ (.of_accrued hm haccrued (.refl ?_))
    rw [← hsound.market, haccount, hnone]
  case isFalse hsome =>
    rw [← hsame] at howes hsome
    have hall := Bank.succeeds_withdrawAll hcustody hknown hsound.known Bank.get?_booked_self
      haccrued.settled howes hsome hbasket
    rw [hsame] at hall
    rw [Action.succeeds_bind, succeeds_lending]
    exact hall.imp fun _ bank hemptied => hrelease bank (.of_accrued hm haccrued hemptied)

end LetGo

end Operation

/-! ## Letting go (`LeverageModule::remove_module`) -/

/-- An event can be put in the log until the numbers for events are used up. -/
theorem Desk.publish?_eq_none {d : Desk} (payload : EventPayload) :
    d.publish? [payload] = none ↔ d.log.nextId = .largest 64 := by
  have hlt := d.log.nextId.isLt
  have hlargest : (Word.largest 64).toNat + 1 = 1 <<< 64 := by decide
  simp only [publish?, EventLog.append?, EventLog.push?, List.foldlM_cons, List.foldlM_nil,
    bind_pure, Option.map_eq_none_iff, Word.succ?, Word.ofNat?_eq_none]
  rw [Word.ext_iff]
  omega

/-- A refused operation leaves the world as it was. -/
theorem World.operate_refused {α : Type} {op : Desk → Operation α} {w : World} {s : Session}
    {e : LeverageError} (h : (op w.desk).run ⟨w.chain, w.desk.records, []⟩ = .refused e s) :
    (World.operate op).run w = .refused e w := by
  change World.operate op w = _
  change op w.desk ⟨w.chain, w.desk.records, []⟩ = _ at h
  rw [World.operate, h]

/-- The run ends with an operation that goes through and cannot be put in the log. -/
theorem World.operate_aborted {α : Type} {op : Desk → Operation α} {w : World} {s : Session}
    {a : α} (h : (op w.desk).run ⟨w.chain, w.desk.records, []⟩ = .done a s)
    (hnone : { w.desk with records := s.records }.publish? s.events = none) :
    (World.operate op).run w = .aborted := by
  change World.operate op w = _
  change op w.desk ⟨w.chain, w.desk.records, []⟩ = _ at h
  rw [World.operate, h]
  dsimp only
  rw [hnone]

/-- **The pool has what it owes** wherever a run leads. -/
theorem World.runs_custody {known : Set MarketParams} (hknown : Set.InjOn MarketParams.id known)
    {pool router feeRecipient holder owner : Address} {settings : Settings}
    {requests : List Request} (hmarkets : ∀ r ∈ requests, ∀ p, r.market? = some p → p ∈ known)
    (hpayers : ∀ r ∈ requests, r.payer? ≠ some pool) {w : World}
    (hrun : runs requests (blank pool router feeRecipient holder owner settings) = some w) :
    w.Orderly known ∧ w.chain.toBank.Custody known pool := by
  have hchain (q : ChainRequest) (hq : .chain q ∈ requests) :
      (∀ p, q.market? = some p → p ∈ known) ∧ ∀ a, q.payer? = some a → a ≠ pool := by
    refine ⟨hmarkets _ hq, ?_⟩
    rintro a ha rfl
    exact hpayers _ hq ha
  have hdesk (basket : Address) (operation : BasketOperation)
      (h : .desk (.basket basket operation) ∈ requests) (k : Errand) (hk : k.known = known)
      (hbasket : k.basket = basket) (q : ChainRequest) (hq : k.Serves q) :
      (∀ p, q.market? = some p → p ∈ known) ∧ ∀ a, q.payer? = some a → a ≠ pool := by
    subst hk hbasket
    refine ⟨fun p hp => hq.known hp, ?_⟩
    rintro a ha rfl
    exact hpayers _ h (congrArg some (hq.payer ha).symm)
  obtain ⟨horderly, hmoves⟩ :=
    runs_moves (orderly_blank known _ _ _ _ _ _) hchain hdesk hmarkets hrun
  refine ⟨horderly, hmoves.keeps (I := fun c => c.toBank.Custody known pool)
    (Lending.custody_create known _ _ _) ?_⟩
  exact fun r _ _ hr hc hafter => Lending.after_custody hknown hr.1 hr.2 hc hafter

/-- **A basket that owes nothing can let the desk go**, and one that owes something cannot. Let the
markets in play have names of their own, and let a run from a blank world never make the pool itself
the one who pays. Wherever it leads, and unless interest or the unit of the collateral does not fit
into its width, a basket that owes something is told so. One that owes nothing has all its
collateral back, and the desk is off its books, its records and its hooks. The one thing that can
still come in between is that the desk has used up all numbers for events. -/
theorem World.letGo_gives_back {known : Set MarketParams}
    (hknown : Set.InjOn MarketParams.id known) {pool router feeRecipient holder owner : Address}
    {settings : Settings} {requests : List Request}
    (hmarkets : ∀ r ∈ requests, ∀ p, r.market? = some p → p ∈ known)
    (hpayers : ∀ r ∈ requests, r.payer? ≠ some pool) {w : World}
    (hrun : runs requests (blank pool router feeRecipient holder owner settings) = some w)
    {basket : Address} {r : Record} (hr : w.desk.records.get? basket = some r)
    (haccrue : ∀ e bank, (Bank.accrue r.params).run w.chain.toBank ≠ .refused (.math e) bank)
    (hfits : r.entered = true → ∀ b, w.chain.baskets.get? basket = some b → 0 < b.supply.toNat →
      ((w.chain.tokens.balance r.params.collateralAsset basket).toNat +
        (w.chain.pool.account r.market basket).collateral.toNat) * Amount.one.toNat /
          b.supply.toNat < 1 <<< 127) :
    ((w.chain.pool.account r.market basket).borrowShares ≠ 0 →
      (World.letGo basket basket).run w =
        .refused (.borrowOutstanding (w.chain.pool.account r.market basket).borrowShares) w) ∧
    ((w.chain.pool.account r.market basket).borrowShares = 0 →
      w.desk.log.nextId = .largest 64 ∧ (World.letGo basket basket).run w = .aborted ∨
        ∃ w', (World.letGo basket basket).run w =
          .done (w.chain.pool.account r.market basket).collateral w' ∧
            w.LetGo basket r w') := by
  obtain ⟨horderly, hcustody⟩ := runs_custody hknown hmarkets hpayers hrun
  have hgrounded : Grounded (· ≠ pool) w.desk.records w.chain := by
    refine runs_grounded (fun basket operation hasked hpool => ?_) hrun
    exact hpayers _ hasked (congrArg some hpool)
  have hsound := horderly.records basket r hr
  have hbasket : basket ≠ pool := hgrounded.asked basket r hr
  obtain ⟨b, hb⟩ := Option.isSome_iff_exists.1 (hgrounded.basket basket r hr)
  obtain ⟨m, hm⟩ := hgrounded.market basket r hr
  have hm : w.chain.pool.markets.get? r.params.id = some m := hm
  rw [r.account_market hsound.market hm]
  rw [r.account_market hsound.market hm] at hfits
  constructor
  · intro howes
    obtain ⟨m₁, haccrued, hdone⟩ := Bank.accrue_done hm haccrue
    have haccount := r.account_accrued hsound.market w.chain.toBank haccrued basket
    exact World.operate_refused (Operation.letGo_refused hr hdone haccount howes)
  · intro howes
    have hsucceeds := Operation.succeeds_letGo (s := ⟨w.chain, w.desk.records, []⟩) (d := w.desk)
      horderly.tidy hb hcustody hknown hr hsound hbasket hm haccrue howes
      fun hentered => hfits hentered b hb
    obtain ⟨_, s, hdone, rfl, bank, hemptied, hreleased⟩ := Outcome.succeeds_iff.1 hsucceeds
    have hpool : s.chain.pool = bank.pool := congrArg Bank.pool hreleased.bank
    have htokens : s.chain.tokens = bank.tokens := congrArg Bank.tokens hreleased.bank
    cases hpublish : ({ w.desk with records := s.records } : Desk).publish? s.events with
    | none =>
      refine .inl ⟨?_, World.operate_aborted hdone hpublish⟩
      have hevents : s.events = [.moduleRemoved basket (m.account basket).collateral] :=
        hreleased.events
      rw [hevents, Desk.publish?_eq_none] at hpublish
      exact hpublish
    | some desk =>
      refine .inr ⟨_, World.operate_eq_done.2 ⟨s, desk, hdone, hpublish, rfl⟩, ?_⟩
      obtain ⟨log, rfl⟩ := publish?_eq_some hpublish
      refine ⟨?_, ?_, ⟨hreleased.books.positions, hreleased.books.unit⟩, ?_, hreleased.hooks⟩
      · rw [hsound.market, hpool]
        exact hemptied.collateral
      · rw [hsound.market, htokens]
        exact hemptied.wallet
      · rw [hreleased.records]
        exact FiniteMap.get?_erase_self _ basket

open Deployment in
/-- The basket of the reference deployment, entered and without a debt, has its collateral of one
token back. -/
theorem World.letGo_gives_back_of_entering : ∃ w r w',
    World.runs entering (start .usual) = some w ∧
      w.desk.records.get? Deployment.basket = some r ∧ r.entered = true ∧
      (World.letGo Deployment.basket Deployment.basket).run w = .done Amount.one w' ∧
      w.LetGo Deployment.basket r w' := by
  have hmarkets : ∀ r ∈ entering, r.market? = none ∨ r.market? = some params := by decide +kernel
  have hpayers : ∀ r ∈ entering, r.payer? ≠ some Deployment.pool := by decide +kernel
  have henters : ((World.runs entering (start .usual)).bind fun w =>
      (w.desk.records.get? Deployment.basket).map fun r =>
        let account := w.chain.pool.account r.market Deployment.basket
        decide (r.entered = true ∧ account.borrowShares = 0 ∧ account.collateral = Amount.one ∧
          w.desk.log.nextId ≠ .largest 64)) = some true := by decide +kernel
  have hroom : ((World.runs entering (start .usual)).bind fun w =>
      (w.desk.records.get? Deployment.basket).map fun r =>
        ((Bank.accrue r.params).run w.chain.toBank).isDone &&
        (w.chain.baskets.get? Deployment.basket).all fun b =>
          decide (((w.chain.tokens.balance r.params.collateralAsset Deployment.basket).toNat +
            (w.chain.pool.account r.market Deployment.basket).collateral.toNat) *
              Amount.one.toNat / b.supply.toNat < 1 <<< 127)) = some true := by decide +kernel
  obtain ⟨w, hw, henters⟩ := Option.bind_eq_some_iff.1 henters
  obtain ⟨r, hr, henters⟩ := Option.map_eq_some_iff.1 henters
  rw [hw, Option.bind_some, hr, Option.map_some, Option.some_inj] at hroom
  obtain ⟨hentered, howes, hcollateral, hnumbers⟩ := of_decide_eq_true henters
  obtain ⟨haccrues, hfits⟩ := Bool.and_eq_true_iff.1 hroom
  obtain ⟨u, bank, haccrued⟩ := Outcome.exists_of_isDone haccrues
  have hknown (q : Request) (hq : q ∈ entering) (p : MarketParams) (hp : q.market? = some p) :
      p ∈ ({params} : Set MarketParams) := by
    rcases hmarkets q hq with hnone | hsome
    · rw [hnone] at hp
      cases hp
    · exact (Option.some.inj (hsome.symm.trans hp)).symm
  have haccrue (e : MathError) (b : Bank) :
      (Bank.accrue r.params).run w.chain.toBank ≠ .refused (.math e) b := by
    rw [haccrued]
    simp
  have hgivesBack := (World.letGo_gives_back (Set.injOn_singleton MarketParams.id params) hknown
    hpayers hw hr haccrue fun _ b hb _ => by
      rw [hb, Option.all_some, decide_eq_true_eq] at hfits
      exact hfits).2 howes
  rw [hcollateral] at hgivesBack
  obtain ⟨hfull, -⟩ | ⟨w', hdone, hletGo⟩ := hgivesBack
  · exact absurd hfull hnumbers
  · exact ⟨w, r, w', hw, hr, hentered, hdone, hletGo⟩

end Leverage

end LeveredBasket
