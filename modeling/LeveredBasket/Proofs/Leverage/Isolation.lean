/-
What an operation on one basket leaves of all others.

Four stores are shared by all baskets. The ledger is written for the operation's own
basket alone, and so are the records and the hooks (`BasketOperation.Effect.others`).
In the pool it is only the basket's account that is dealt with, and nobody's deposit
(`Errand.Moved.deposits`). Tokens are taken from the basket and from the pool, whatever
an adapter asks of the venue and whoever is to receive what it pays
(`Errand.Moved.le_balance`). Each store is followed on its own along the requests of
the errand.
-/
import LeveredBasket.Proofs.Leverage.Bookkeeping

set_option autoImplicit false

namespace LeveredBasket

namespace Lending

/-- The deposits in a market: the shares of all together, and those of each. -/
def Market.deposits (m : Market) : Amount × (Address → Amount) :=
  (m.totals.supplyShares, fun who => (m.account who).supplyShares)

/-- The deposits in each market that there is. -/
def Bank.deposits (b : Bank) (market : MarketId) : Option (Amount × (Address → Amount)) :=
  (b.pool.markets.get? market).map Market.deposits

end Lending

namespace Leverage

/-- **Of `z` the records, the ledger and the hooks are in `w'` what they were in `w`.** -/
structure World.SameFor (z : Address) (w w' : World) : Prop where
  record : w'.desk.records.get? z = w.desk.records.get? z
  /-- Its statuses of modules, its positions and its supply. -/
  basket : w'.chain.baskets.get? z = w.chain.baskets.get? z
  hooks : ∀ orchestrator, w'.chain.hooksOf orchestrator z = w.chain.hooksOf orchestrator z

/-- **`w'` is another than `w` on account of one basket only.** -/
structure World.ChangedFor (basket : Address) (w w' : World) : Prop where
  others : ∀ z, z ≠ basket → w.SameFor z w'
  account : ∀ z, z ≠ basket → ∀ market,
    w'.chain.pool.account market z = w.chain.pool.account market z
  /-- Nobody has less of anything but the basket and the pool. -/
  balance : ∀ z, z ≠ basket → z ≠ w.chain.pool.address → ∀ asset,
    (w.chain.tokens.balance asset z).toNat ≤ (w'.chain.tokens.balance asset z).toNat
  /-- Not even the basket's own supply has changed. -/
  supply : ∀ a, (w'.chain.baskets.get? a).map (·.supply) = (w.chain.baskets.get? a).map (·.supply)
  /-- Nor anybody's deposit in any market. -/
  deposit : ∀ market a, (w'.chain.pool.account market a).supplyShares =
    (w.chain.pool.account market a).supplyShares
  deposits : ∀ market, (w'.chain.pool.markets.get? market).map (·.totals.supplyShares) =
    (w.chain.pool.markets.get? market).map (·.totals.supplyShares)

end Leverage

namespace Lending

/-! ## Calls that are not about deposits -/

theorem Market.Accrued.deposits_eq {now : Word 64} {m m' : Market} (h : m.Accrued now m') :
    m'.deposits = m.deposits := by
  simp only [Market.deposits, h.supplyShares, h.account]

/-- A new account with the same deposit is not about deposits. -/
theorem Market.deposits_setAccount {m : Market} {who : Address} {a : Account} {totals : Totals}
    (ha : a.supplyShares = (m.account who).supplyShares)
    (hshares : totals.supplyShares = m.totals.supplyShares) :
    ({ m.setAccount who a with totals := totals } : Market).deposits = m.deposits := by
  refine Prod.ext hshares (funext fun z => ?_)
  have hwritten : ({ m.setAccount who a with totals := totals } : Market).account z =
      if z = who then a else m.account z := m.account_setAccount who z a
  change Account.supplyShares _ = (m.account z).supplyShares
  rw [hwritten]
  split
  case isTrue hz => rw [hz, ha]
  case isFalse => rfl

namespace Bank

/-- The call leaves deposits as they are, wherever it stops. -/
abbrev KeepsDeposits {α : Type} (deposits : MarketId → Option (Amount × (Address → Amount)))
    (x : Call α) : Prop :=
  x.Keeps (fun b => b.deposits = deposits) fun _ => True

variable {deposits : MarketId → Option (Amount × (Address → Amount))} {params : MarketParams}
variable {α : Type} {m : Market} {who : Address} {a : Account} {totals : Totals}

theorem keepsDeposits_compute (x : Except MathError α) : KeepsDeposits deposits (compute x) :=
  .ofExcept fun _ _ => trivial

/-- The market that is read has the deposits that there are. -/
theorem keepsDeposits_market (params : MarketParams) :
    (market params).Attains (fun b => b.deposits = deposits) (fun _ => True)
      fun m _ => deposits params.id = some m.deposits := by
  rintro b rfl
  rw [ends_market]
  refine ⟨fun m hm => ⟨rfl, ?_⟩, fun _ => ⟨rfl, trivial⟩⟩
  rw [Bank.deposits, hm]
  rfl

theorem deposits_booked {b : Bank} (hb : b.deposits = deposits)
    (hm : deposits params.id = some m.deposits) : (b.booked params m).deposits = deposits := by
  funext market
  rw [Bank.deposits, get?_booked]
  split
  case isTrue hid =>
    rw [hid, hm]
    rfl
  case isFalse => exact congrFun hb market

theorem keepsDeposits_book (hm : deposits params.id = some m.deposits) :
    KeepsDeposits deposits (book params m) := fun _ hb => deposits_booked hb hm

theorem keepsDeposits_bookAccount (hm : deposits params.id = some m.deposits)
    (ha : a.supplyShares = (m.account who).supplyShares)
    (hshares : totals.supplyShares = m.totals.supplyShares) :
    KeepsDeposits deposits (book params { m.setAccount who a with totals := totals }) :=
  keepsDeposits_book (hm.trans (congrArg some (Market.deposits_setAccount ha hshares).symm))

theorem keepsDeposits_move (asset sender recipient : Address) (amount : Amount) :
    KeepsDeposits deposits (move asset sender recipient amount) := by
  intro b hb
  refine (move_spec asset sender recipient amount b).imp ?_ ?_
  · rintro _ _ ⟨t, -, rfl⟩
    exact hb
  · rintro _ _ ⟨-, rfl, -⟩
    exact ⟨hb, trivial⟩

theorem keepsDeposits_accrue (params : MarketParams) :
    KeepsDeposits deposits (accrue params) := by
  rintro b rfl
  have hfound {m : Market} (hm : b.pool.markets.get? params.id = some m) :
      b.deposits params.id = some m.deposits := by rw [Bank.deposits, hm, Option.map_some]
  refine (accrue_spec params b).imp ?_ ?_
  · rintro _ _ ⟨m, m', hm, haccrued, rfl⟩
    refine deposits_booked rfl ?_
    rw [hfound hm, haccrued.deposits_eq]
  · rintro _ _ ⟨-, -, rfl | ⟨m, debt, hm, -, rfl⟩⟩
    · exact ⟨rfl, trivial⟩
    · -- the debts alone have grown
      have hsame : ({ m with totals := { m.totals with borrowAssets := debt } } :
          Market).deposits = m.deposits := rfl
      exact ⟨deposits_booked rfl (by rw [hfound hm, hsame]), trivial⟩

theorem keepsDeposits_supplyCollateral (params : MarketParams) (who : Address)
    (amount : Amount) : KeepsDeposits deposits (supplyCollateral params who amount) := by
  refine .bind (.require _ trivial) fun _ => ?_
  refine (keepsDeposits_market params).bind_keeps fun m hm => .bind (.read _) fun pool => ?_
  refine .bind (keepsDeposits_move _ _ _ _) fun _ => ?_
  exact .bind (keepsDeposits_compute _) fun collateral =>
    keepsDeposits_bookAccount hm rfl rfl

theorem keepsDeposits_withdrawCollateral (params : MarketParams) (who : Address)
    (amount : Amount) (receiver : Address) :
    KeepsDeposits deposits (withdrawCollateral params who amount receiver) := by
  refine .bind (.require _ trivial) fun _ => .bind (keepsDeposits_accrue params) fun _ => ?_
  refine (keepsDeposits_market params).bind_keeps fun m hm => .bind (.read _) fun price => ?_
  refine .bind (.require _ trivial) fun _ => ?_
  refine .bind (keepsDeposits_bookAccount hm rfl rfl) fun _ => ?_
  refine .bind (keepsDeposits_compute _) fun healthy => .bind (.require _ trivial) fun _ => ?_
  exact .bind (.read _) fun pool => keepsDeposits_move _ _ _ _

theorem keepsDeposits_borrow (params : MarketParams) (who : Address) (assets : Amount)
    (receiver : Address) : KeepsDeposits deposits (borrow params who assets receiver) := by
  refine .bind (.require _ trivial) fun _ => .bind (keepsDeposits_accrue params) fun _ => ?_
  refine (keepsDeposits_market params).bind_keeps fun m hm => .bind (.read _) fun price => ?_
  refine .bind (keepsDeposits_compute _) fun shares => ?_
  refine .bind (keepsDeposits_compute _) fun borrowAssets => ?_
  refine .bind (keepsDeposits_book hm) fun _ => ?_
  refine .bind (keepsDeposits_compute _) fun borrowShares => ?_
  refine .bind (keepsDeposits_book hm) fun _ => .bind (keepsDeposits_compute _) fun owed => ?_
  refine .bind (keepsDeposits_bookAccount hm rfl rfl) fun _ => ?_
  refine .bind (keepsDeposits_compute _) fun healthy => .bind (.require _ trivial) fun _ => ?_
  refine .bind (.require _ trivial) fun _ => .bind (.read _) fun pool => ?_
  exact .bind (keepsDeposits_move _ _ _ _) fun _ => .pure _

theorem keepsDeposits_repay (params : MarketParams) (who : Address) (amount : RepayAmount) :
    KeepsDeposits deposits (repay params who amount) := by
  refine .bind (keepsDeposits_accrue params) fun _ => ?_
  refine (keepsDeposits_market params).bind_keeps fun m hm => ?_
  refine .bind (keepsDeposits_compute _) fun moved => .bind (.require _ trivial) fun _ => ?_
  refine .bind (.require _ trivial) fun _ => .bind (.read _) fun pool => ?_
  refine .bind (keepsDeposits_move _ _ _ _) fun _ => ?_
  refine .bind (keepsDeposits_bookAccount hm rfl rfl) fun _ => ?_
  exact .bind (.bind (keepsDeposits_compute _) fun _ => keepsDeposits_bookAccount hm rfl rfl)
    fun _ => .pure _

end Bank

end Lending

namespace Leverage

open Lending (Bank MarketId PoolRequest)

/-! ## The pool and the tokens -/

namespace Errand

variable {k : Errand} {r : ChainRequest} {z : Address} {c c' : Chain}

/-- What a desk asks of the pool is not about deposits. -/
theorem Serves.keepsDeposits {q : PoolRequest} (h : k.Serves (.pool q))
    (deposits : MarketId → Option (Amount × (Address → Amount))) :
    Bank.KeepsDeposits deposits q.perform := by
  cases h with
  | accrue => exact Bank.keepsDeposits_accrue _
  | supplyCollateral => exact Bank.keepsDeposits_supplyCollateral _ _ _
  | withdrawCollateral => exact Bank.keepsDeposits_withdrawCollateral _ _ _ _
  | borrow => exact .bind (Bank.keepsDeposits_borrow _ _ _ _) fun _ => .pure _
  | repay => exact .bind (Bank.keepsDeposits_repay _ _ _) fun _ => .pure _

/-- **A desk touches nobody's deposit.** -/
theorem Moved.deposits (h : k.Moved c) : c.toBank.deposits = k.start.toBank.deposits := by
  apply Chain.Comes.keeps (I := fun d => d.toBank.deposits = k.start.toBank.deposits) h rfl
  intro r d d' hr hd hthrough
  have hafter := ChainRequest.after_of_through hthrough
  obtain ⟨q, rfl, hb⟩ | hpool := ChainRequest.after_bank hafter
  · exact (hr.keepsDeposits k.start.toBank.deposits).after hd hb
  · rw [← hd]
    unfold Bank.deposits
    rw [hpool]

/-- A request of the errand to the pool leaves the pool where it is, and takes tokens from the
basket or from the pool. -/
theorem Serves.pool_le_balance {q : PoolRequest} {b b' : Bank} (h : k.Serves (.pool q))
    (hrun : q.perform.run b = .done () b') : b'.pool.address = b.pool.address ∧
      ∀ z, z ≠ k.basket → z ≠ b.pool.address → ∀ asset,
        (b.tokens.balance asset z).toNat ≤ (b'.tokens.balance asset z).toNat := by
  cases h with
  | accrue =>
    obtain ⟨m, m', -, -, rfl⟩ := (Bank.accrue_spec _ b).done hrun
    exact ⟨rfl, fun _ _ _ _ => Nat.le_refl _⟩
  | supplyCollateral =>
    obtain ⟨m, m', t, -, -, -, -, -, ht, rfl⟩ := (Bank.supplyCollateral_ends _ _ _ b).done hrun
    exact ⟨rfl, fun z hz _ asset => ht.le_balance hz.symm asset⟩
  | withdrawCollateral =>
    obtain ⟨m₀, m, m', t, -, -, -, -, -, -, -, ht, rfl⟩ :=
      (Bank.withdrawCollateral_ends _ _ _ _ b).done hrun
    exact ⟨rfl, fun z _ hz asset => ht.le_balance hz.symm asset⟩
  | borrow =>
    obtain ⟨moved, hrun⟩ := Action.run_forget_eq_done.1 hrun
    obtain ⟨m₀, m, m', t, -, -, -, -, -, -, ht, rfl⟩ := (Bank.borrow_ends _ _ _ _ b).done hrun
    exact ⟨rfl, fun z _ hz asset => ht.le_balance hz.symm asset⟩
  | repay =>
    obtain ⟨moved, hrun⟩ := Action.run_forget_eq_done.1 hrun
    obtain ⟨m₀, m, m', t, -, -, -, -, -, ht, rfl⟩ := (Bank.repay_ends _ _ _ b).done hrun
    exact ⟨rfl, fun z hz _ asset => ht.le_balance hz.symm asset⟩

/-- So does any request of the errand. -/
theorem Serves.le_balance (h : k.Serves r) (hthrough : r.through c = some c') :
    c'.pool.address = c.pool.address ∧
      ∀ z, z ≠ k.basket → z ≠ c.pool.address → ∀ asset,
        (c.tokens.balance asset z).toNat ≤ (c'.tokens.balance asset z).toNat := by
  by_cases hr : ∃ q, r = .pool q
  · obtain ⟨q, rfl⟩ := hr
    exact h.pool_le_balance (through_pool hthrough)
  · have hafter := ChainRequest.after_of_through hthrough
    refine ⟨congrArg _ (ChainRequest.pool_after hr hafter), fun z hz _ => ?_⟩
    have hpayer (a : Address) (ha : r.payer? = some a) : a ≠ z := by
      rw [h.payer ha]
      exact hz.symm
    exact ((TokenBook.stable_atLeast z fun asset => (c.tokens.balance asset z).toNat).after_outside
      (fun q hq => hr ⟨q, hq⟩) hpayer (fun _ => Nat.le_refl _) hafter).2

/-- **A desk takes tokens from nobody but its basket and the pool.** -/
theorem Moved.le_balance (h : k.Moved c) : c.pool.address = k.start.pool.address ∧
    ∀ z, z ≠ k.basket → z ≠ k.start.pool.address → ∀ asset,
      (k.start.tokens.balance asset z).toNat ≤ (c.tokens.balance asset z).toNat := by
  apply Chain.Comes.keeps (I := fun d => d.pool.address = k.start.pool.address ∧
    ∀ z, z ≠ k.basket → z ≠ k.start.pool.address → ∀ asset,
      (k.start.tokens.balance asset z).toNat ≤ (d.tokens.balance asset z).toNat) h
    ⟨rfl, fun _ _ _ _ => Nat.le_refl _⟩
  rintro r d d' hr ⟨haddress, hle⟩ hthrough
  obtain ⟨haddress', hle'⟩ := hr.le_balance hthrough
  refine ⟨haddress'.trans haddress, fun z hz hpool asset => ?_⟩
  exact (hle z hz hpool asset).trans (hle' z hz (haddress ▸ hpool) asset)

/-- **A desk deals with no account but its basket's**, in any market. -/
theorem Moved.account (h : k.Moved c) (hstart : k.start.toBank.Balanced) (hz : z ≠ k.basket)
    (market : MarketId) : c.pool.account market z = k.start.pool.account market z := by
  have hdeposits := congrFun h.deposits market
  unfold Bank.deposits at hdeposits
  unfold Lending.Pool.account
  cases hm : k.start.pool.markets.get? market with
  | none =>
    rw [hm, Option.map_none, Option.map_eq_none_iff] at hdeposits
    rw [hdeposits]
  | some m =>
    obtain ⟨m', hm', hspares⟩ := (h.spares hstart hz).markets market m hm
    rw [hm']
    exact hspares.account

end Errand

/-! ## The ledger and the records -/

section Others

variable {basket z : Address} {r : Record} {c c' : Chain} {w w' : World}

theorem get?_baskets_of_wrote {p : Position} (h : Chain.Wrote basket p c c') (hz : z ≠ basket) :
    c'.baskets.get? z = c.baskets.get? z := by
  obtain ⟨b, ps, -, -, rfl⟩ := h
  exact c.baskets.get?_insert_of_ne hz _

/-- Bookkeeping for one basket is none for another. -/
theorem get?_baskets_of_bookkept {holder : Address} (h : Chain.Bookkept holder basket r c c')
    (hz : z ≠ basket) : c'.baskets.get? z = c.baskets.get? z :=
  h.keeps (I := fun d => d.baskets.get? z = c.baskets.get? z) rfl (fun _ _ hd => hd)
    fun _ _ _ _ hwrote hd => (get?_baskets_of_wrote hwrote hz).trans hd

theorem get?_baskets_of_closed {holder : Address} (h : Chain.Closed holder basket r c c')
    (hz : z ≠ basket) : c'.baskets.get? z = c.baskets.get? z :=
  h.keeps (I := fun d => d.baskets.get? z = c.baskets.get? z) rfl
    fun _ _ _ hwrote hd => (get?_baskets_of_wrote hwrote hz).trans hd

/-- **No effect of an operation reaches another basket.** -/
theorem BasketOperation.Effect.others {operation : BasketOperation}
    (h : operation.Effect basket w w') (hz : z ≠ basket) : w.SameFor z w' := by
  cases h with
  | listed hchain hrecords =>
    refine ⟨?_, ?_, fun o => ?_⟩
    · rw [hrecords]
    · rw [hchain]
    · rw [hchain]
  | kept _ _ hchain hrecords =>
    refine ⟨?_, get?_baskets_of_bookkept hchain hz, fun o => Chain.hooksOf_eq hchain.hooks o z⟩
    rw [hrecords]
  | enrolled _ _ _ hchain hrecords =>
    refine ⟨?_, ?_, fun o => ?_⟩
    · rw [hrecords, FiniteMap.get?_insert_of_ne _ hz]
    · rw [hchain]
      exact w.chain.baskets.get?_insert_of_ne hz _
    · rw [hchain, Chain.hookIn, Chain.hooksOf_setHooks_of_ne _ _ _ o hz]
      rfl
  | registered _ hchain hrecords =>
    refine ⟨?_, ?_, fun o => ?_⟩
    · rw [hrecords, FiniteMap.get?_insert_of_ne _ hz]
    · rw [hchain]
      rfl
    · rw [hchain, Chain.hookIn, Chain.hooksOf_setHooks_of_ne _ _ _ o hz]
  | entered _ _ hwrote hchain hrecords =>
    have hbasket := (get?_baskets_of_bookkept hchain hz).trans (get?_baskets_of_wrote hwrote hz)
    obtain ⟨b, ps, -, -, rfl⟩ := hwrote
    refine ⟨?_, hbasket, fun o => Chain.hooksOf_eq hchain.hooks o z⟩
    rw [hrecords, FiniteMap.get?_insert_of_ne _ hz]
  | @released _ r bank c _ _ hclosed hchain hrecords =>
    obtain ⟨-, hbaskets⟩ := c.dropHooks_same basket w.desk.address r.issuers
    refine ⟨?_, ?_, fun o => ?_⟩
    · rw [hrecords, FiniteMap.get?_erase_of_ne _ hz]
    · have hbasket := get?_baskets_of_closed hclosed hz
      rw [hchain, hbaskets]
      exact hbasket
    · rw [hchain, Chain.hooksOf_dropHooks_of_ne c _ _ o hz]
      exact Chain.hooksOf_eq hclosed.hooks o z

end Others

/-! ## Operations -/

theorem World.ChangedFor.refl (basket : Address) (w : World) : w.ChangedFor basket w :=
  ⟨fun _ _ => ⟨rfl, rfl, fun _ => rfl⟩, fun _ _ _ => rfl, fun _ _ _ _ => Nat.le_refl _,
    fun _ => rfl, fun _ _ => rfl, fun _ => rfl⟩

/-- The same deposits in a market are the same deposit for each account. -/
theorem supplyShares_of_deposits {b b' : Bank} (h : b'.deposits = b.deposits) (market : MarketId)
    (a : Address) : (b'.pool.account market a).supplyShares =
      (b.pool.account market a).supplyShares := by
  have hmarket := congrFun h market
  unfold Bank.deposits at hmarket
  unfold Lending.Pool.account
  cases hm : b.pool.markets.get? market with
  | none =>
    rw [hm, Option.map_none, Option.map_eq_none_iff] at hmarket
    rw [hmarket]
  | some m =>
    rw [hm, Option.map_some] at hmarket
    obtain ⟨m', hm', hsame⟩ := Option.map_eq_some_iff.1 hmarket
    rw [hm']
    exact congrFun (congrArg Prod.snd hsame) a

/-- **Isolation.** In a world that can come about, let the desk be asked about a basket. Whether or
not it refuses, and whatever the adapter and the route, the world that it leaves is another on
account of that basket only. -/
theorem World.Reachable.changedFor {w w' : World} (hw : w.Reachable) {basket : Address}
    {operation : BasketOperation} (h : (operation.perform basket).after w = some w') :
    w.ChangedFor basket w' := by
  have hspec := operation.perform_spec hw.orderly basket fun _ _ => trivial
  have hends : ((operation.perform basket).run w).Ends (fun _ v => w.ChangedFor basket v)
      fun _ v => w.ChangedFor basket v := by
    refine Outcome.ends_iff.2 ⟨fun _ v hrun => ?_, fun e v hrun => ?_⟩
    · have hmoved := (hspec.done hrun).chain
      have hdeposits := hmoved.deposits
      refine ⟨fun z hz => (BasketOperation.effect hrun).others hz, fun z hz market => ?_,
        hmoved.le_balance.2, hmoved.supply, supplyShares_of_deposits hdeposits, fun market => ?_⟩
      · exact hmoved.account (Lending.balanced_of_reachable hw) hz market
      · have htotals := congrArg (Option.map Prod.fst) (congrFun hdeposits market)
        rw [Bank.deposits, Bank.deposits, Option.map_map, Option.map_map] at htotals
        exact htotals
    · obtain ⟨rfl, -⟩ := hspec.refused hrun
      exact .refl basket _
  exact hends.state h

open Deployment in
/-- So it is where the basket of the reference deployment is levered after it has entered. -/
theorem World.changedFor_of_entering : ∃ w w', World.runs entering (start .usual) = some w ∧
    ((BasketOperation.lever manager thousandUsdc 0 adapterName []).perform
      Deployment.basket).run w = .done () w' ∧
    w.ChangedFor Deployment.basket w' := by
  have hcalls : ((World.runs entering (start .usual)).map fun w =>
      (((BasketOperation.lever manager thousandUsdc 0 adapterName []).perform
        Deployment.basket).run w).isDone) = some true := by decide +kernel
  obtain ⟨w, hw, hcalls⟩ := Option.map_eq_some_iff.1 hcalls
  obtain ⟨_, w', hlever⟩ := Outcome.exists_of_isDone hcalls
  have hreachable : w.Reachable := ⟨pool, router, feeRecipient, holder, owner, .usual, _, hw⟩
  have hafter : ((BasketOperation.lever manager thousandUsdc 0 adapterName []).perform
      Deployment.basket).after w = some w' := congrArg Outcome.state? hlever
  exact ⟨w, w', hw, hlever, World.Reachable.changedFor hreachable hafter⟩

end Leverage

end LeveredBasket
