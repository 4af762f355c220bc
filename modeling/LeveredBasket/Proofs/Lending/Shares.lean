/-
Shares are conserved.

A market counts its shares twice: in its totals (`MarketState`), and in the
accounts (`LendingPosition`). Each call changes the one before the other and may
be refused in between, so what has to be shown is that it is not: no account has
more shares than there are, so that an account can take what the total could take,
and the total can give what an account could give. From there on, both counts
agree wherever a call stops, no subtraction of shares ever falls below zero, and
all that can be wrong with the arithmetic of a call is that a number does not fit.
-/
import LeveredBasket.Proofs.Lending.Calls
import LeveredBasket.Proofs.Leverage.Worlds

set_option autoImplicit false

namespace LeveredBasket.Lending

/-! ## Both counts -/

/-- **The totals count the shares that the accounts have.** -/
structure Market.Balanced (m : Market) : Prop where
  borrow : m.totals.borrowShares.toNat = m.held Account.borrowShares
  supply : m.totals.supplyShares.toNat = m.held Account.supplyShares

/-- Every market counts its shares alike in its totals and in its accounts. -/
def Bank.Balanced (b : Bank) : Prop := ∀ id m, b.pool.markets.get? id = some m → m.Balanced

/-- The call keeps both counts alike, and all that can go wrong with its arithmetic is that a number
does not fit. -/
abbrev Bank.Counts {α : Type} (x : Call α) : Prop :=
  x.Keeps Balanced fun e => AtMostOverflow .math e

/-- The call keeps both counts alike, and subtracts no shares that are not there. -/
abbrev Bank.KeepsBalance {α : Type} (x : Call α) : Prop :=
  x.Keeps Balanced fun e => e ≠ .math .underflow

namespace Market

variable {m m' : Market} {who : Address}

/-- No account has more shares than there are. -/
theorem Balanced.borrow_le (h : m.Balanced) (who : Address) :
    (m.account who).borrowShares.toNat ≤ m.totals.borrowShares.toNat := by
  rw [h.borrow]
  exact m.le_held Account.borrowShares rfl who

theorem Balanced.supply_le (h : m.Balanced) (who : Address) :
    (m.account who).supplyShares.toNat ≤ m.totals.supplyShares.toNat := by
  rw [h.supply]
  exact m.le_held Account.supplyShares rfl who

/-- What has no shares to do with keeps both counts. -/
theorem Balanced.of_eq (h : m.Balanced) (haccounts : m'.accounts = m.accounts)
    (hborrow : m'.totals.borrowShares = m.totals.borrowShares)
    (hsupply : m'.totals.supplyShares = m.totals.supplyShares) : m'.Balanced := by
  refine ⟨?_, ?_⟩
  · rw [hborrow, h.borrow, held, held, haccounts]
  · rw [hsupply, h.supply, held, held, haccounts]

theorem balanced_opened (params : MarketParams) (now : Word 64) (rate : Amount) :
    Balanced ⟨params, .opened now, .empty, rate⟩ := ⟨rfl, rfl⟩

/-- An account is written, and the totals with it: each count changes by what the other does. -/
theorem Balanced.setAccount (h : m.Balanced) {a : Account} {totals : Totals}
    (hborrow : totals.borrowShares.toNat + (m.account who).borrowShares.toNat =
      m.totals.borrowShares.toNat + a.borrowShares.toNat)
    (hsupply : totals.supplyShares.toNat + (m.account who).supplyShares.toNat =
      m.totals.supplyShares.toNat + a.supplyShares.toNat) :
    ({ m.setAccount who a with totals := totals } : Market).Balanced := by
  have hb := m.held_setAccount Account.borrowShares rfl who a
  have hs := m.held_setAccount Account.supplyShares rfl who a
  have hborrow' := h.borrow
  have hsupply' := h.supply
  constructor
  · change totals.borrowShares.toNat = (m.setAccount who a).held Account.borrowShares
    omega
  · change totals.supplyShares.toNat = (m.setAccount who a).held Account.supplyShares
    omega

end Market

/-! ## Calls -/

namespace Bank

variable {b : Bank} {params : MarketParams} {m : Market} {tokens : TokenBook}

theorem Balanced.booked (h : b.Balanced) (hm : m.Balanced) : (b.booked params m).Balanced := by
  intro id m' hm'
  rw [get?_booked] at hm'
  split at hm'
  · obtain rfl := Option.some.inj hm'
    exact hm
  · exact h id m' hm'

/-- Tokens have no shares to do with. -/
theorem Balanced.moved (h : b.Balanced) : ({ b with tokens := tokens } : Bank).Balanced := h

/-- What is at most an overflow is no underflow. -/
theorem Counts.keepsBalance {α : Type} {x : Call α} (hx : Counts x) : KeepsBalance x := by
  intro b hb
  refine (hx b hb).imp (fun _ _ h => h) ?_
  rintro e b' ⟨hb', he⟩
  refine ⟨hb', ?_⟩
  rintro rfl
  cases he .underflow rfl

theorem counts_accrue (params : MarketParams) : Counts (accrue params) := by
  intro b hb
  refine (accrue_spec params b).imp ?_ ?_
  · rintro _ _ ⟨m, m', hm, haccrued, rfl⟩
    exact hb.booked ((hb _ m hm).of_eq haccrued.accounts haccrued.borrowShares
      haccrued.supplyShares)
  · rintro e _ ⟨he, -, rfl | ⟨m, debt, hm, -, rfl⟩⟩
    · exact ⟨hb, he⟩
    · exact ⟨hb.booked ((hb _ m hm).of_eq rfl rfl rfl), he⟩

/-- A computation that is defined is refused for an overflow, and the rest may rely on what was
computed. -/
theorem attains_compute {α : Type} {x : Except MathError α} (hx : Defined x) :
    (compute x).Attains Balanced (fun e => AtMostOverflow .math e) fun a _ => x = .ok a := by
  intro b hb
  rw [ends_compute]
  refine ⟨fun _ ha => ⟨hb, ha⟩, fun e he => ⟨hb, ?_⟩⟩
  rintro _ ⟨⟩
  exact hx e he

theorem counts_compute {α : Type} {x : Except MathError α} (hx : Defined x) :
    Counts (compute x) := (attains_compute hx).keeps

theorem counts_move (asset sender recipient : Address) (amount : Amount) :
    Counts (move asset sender recipient amount) := by
  intro b hb
  refine (move_spec asset sender recipient amount b).imp ?_ ?_
  · rintro _ _ ⟨t, -, rfl⟩
    exact hb.moved
  · rintro _ _ ⟨⟨reason, rfl⟩, rfl, -⟩
    exact ⟨hb, by simp⟩

theorem counts_require (p : Prop) [Decidable p] {e : LendingError}
    (he : AtMostOverflow .math e) : Counts (.require p e) :=
  .require p he

theorem attains_market (params : MarketParams) :
    (market params).Attains Balanced (fun e => AtMostOverflow .math e) fun m _ => m.Balanced := by
  intro b hb
  rw [ends_market]
  exact ⟨fun m hm => ⟨hb, hb _ m hm⟩, fun _ => ⟨hb, by simp⟩⟩

theorem counts_book (hm : m.Balanced) : Counts (book params m) := by
  intro b hb
  rw [ends_book]
  exact hb.booked hm

/-- Where one count has run ahead of the other and cannot be refused the rest, it is caught up
with before anything else happens. -/
theorem counts_catchUp {α : Type} {x : Except MathError Amount} {f : Amount → Market}
    {rest : Amount → Call α} (hx : ∀ e, x ≠ .error e)
    (hf : ∀ a, x = .ok a → (f a).Balanced ∧ Counts (rest a)) :
    Counts (do
      book params m
      let a ← compute x
      book params (f a)
      rest a) := by
  intro b hb
  simp only [Action.ends_bind, ends_book, ends_compute, booked_booked]
  refine ⟨fun a ha => ?_, fun e he => absurd he (hx e)⟩
  obtain ⟨hbalanced, hrest⟩ := hf a ha
  exact hrest _ (hb.booked hbalanced)

/-! ## Every call keeps the balance -/

theorem counts_setRate (params : MarketParams) (rate : Amount) :
    Counts (setRate params rate) := by
  refine .bind (counts_accrue params) fun _ => ?_
  exact (attains_market params).bind_keeps fun m hm => counts_book (hm.of_eq rfl rfl rfl)

theorem counts_supply (params : MarketParams) (lender : Address) (assets : Amount) :
    Counts (supply params lender assets) := by
  refine .bind (counts_require _ (by simp)) fun _ => ?_
  refine .bind (counts_accrue params) fun _ => ?_
  refine (attains_market params).bind_keeps fun m hm => ?_
  refine .bind (counts_compute (Share.ofAssets_defined _ _ _ _)) fun shares => ?_
  refine .bind (.read _) fun pool => .bind (counts_move _ _ _ _) fun _ => ?_
  refine .bind (counts_compute (Amount.add_defined _ _)) fun supplyAssets => ?_
  refine .bind (counts_book (hm.of_eq rfl rfl rfl)) fun _ => ?_
  refine Action.Attains.bind_keeps (attains_compute (Amount.add_defined _ _))
    fun supplyShares hs => ?_
  have hs : supplyShares.toNat = m.totals.supplyShares.toNat + shares.toNat :=
    Amount.add_eq_ok.1 hs
  -- the account has no more than the total, so it has room for what the total has room for
  refine counts_catchUp (fun e => Amount.add_ne_error_of_lt ?_)
    fun held hheld => ⟨?_, .pure _⟩
  · have hle := hm.supply_le lender
    have hlt := supplyShares.isLt
    change (m.account lender).supplyShares.toNat + shares.toNat < 1 <<< 128
    omega
  · have hheld : held.toNat = (m.account lender).supplyShares.toNat + shares.toNat :=
      Amount.add_eq_ok.1 hheld
    refine Market.Balanced.setAccount hm rfl ?_
    change supplyShares.toNat + (m.account lender).supplyShares.toNat =
      m.totals.supplyShares.toNat + held.toNat
    omega

theorem counts_supplyCollateral (params : MarketParams) (who : Address) (amount : Amount) :
    Counts (supplyCollateral params who amount) := by
  refine .bind (counts_require _ (by simp)) fun _ => ?_
  refine (attains_market params).bind_keeps fun m hm => .bind (.read _) fun pool => ?_
  refine .bind (counts_move _ _ _ _) fun _ => ?_
  refine .bind (counts_compute (Amount.add_defined _ _)) fun collateral => ?_
  exact counts_book (Market.Balanced.setAccount hm rfl rfl)

theorem counts_withdrawCollateral (params : MarketParams) (who : Address) (amount : Amount)
    (receiver : Address) : Counts (withdrawCollateral params who amount receiver) := by
  refine .bind (counts_require _ (by simp)) fun _ => ?_
  refine .bind (counts_accrue params) fun _ => ?_
  refine (attains_market params).bind_keeps fun m hm => .bind (.read _) fun price => ?_
  refine .bind (counts_require _ (by simp)) fun _ => ?_
  refine .bind (counts_book (Market.Balanced.setAccount hm rfl rfl)) fun _ => ?_
  refine .bind (counts_compute (Market.isHealthy_defined _ _ _)) fun healthy => ?_
  refine .bind (counts_require _ (by simp)) fun _ => .bind (.read _) fun pool => ?_
  exact counts_move _ _ _ _

theorem counts_borrow (params : MarketParams) (who : Address) (assets : Amount)
    (receiver : Address) : Counts (borrow params who assets receiver) := by
  refine .bind (counts_require _ (by simp)) fun _ => ?_
  refine .bind (counts_accrue params) fun _ => ?_
  refine (attains_market params).bind_keeps fun m hm => .bind (.read _) fun price => ?_
  refine .bind (counts_compute (Share.ofAssets_defined _ _ _ _)) fun shares => ?_
  refine .bind (counts_compute (Amount.add_defined _ _)) fun borrowAssets => ?_
  refine .bind (counts_book (hm.of_eq rfl rfl rfl)) fun _ => ?_
  -- the debt is in the books by now; the shares are what both counts count
  refine Action.Attains.bind_keeps (attains_compute (Amount.add_defined _ _))
    fun borrowShares hs => ?_
  have hs : borrowShares.toNat = m.totals.borrowShares.toNat + shares.toNat :=
    Amount.add_eq_ok.1 hs
  refine counts_catchUp (fun e => Amount.add_ne_error_of_lt ?_) fun owed howed => ⟨?_, ?_⟩
  · have hle := hm.borrow_le who
    have hlt := borrowShares.isLt
    change (m.account who).borrowShares.toNat + shares.toNat < 1 <<< 128
    omega
  · have howed : owed.toNat = (m.account who).borrowShares.toNat + shares.toNat :=
      Amount.add_eq_ok.1 howed
    refine Market.Balanced.setAccount hm ?_ rfl
    change borrowShares.toNat + (m.account who).borrowShares.toNat =
      m.totals.borrowShares.toNat + owed.toNat
    omega
  · refine .bind (counts_compute (Market.isHealthy_defined _ _ _)) fun healthy => ?_
    refine .bind (counts_require _ (by simp)) fun _ => ?_
    refine .bind (counts_require _ (by simp)) fun _ => ?_
    exact .bind (.read _) fun pool => .bind (counts_move _ _ _ _) fun _ => .pure _

/-- Shares are taken off an account that has them, and then off the total, which has them too. -/
theorem counts_settle {α : Type} (hm : m.Balanced) {who : Address} {moved : Movement}
    (hshares : moved.shares ≤ (m.account who).borrowShares) (collateral : Amount) (value : α) :
    Counts (do
      let m := m.setAccount who
        { m.account who with
          borrowShares := (m.account who).borrowShares.truncatedSub moved.shares
          collateral := collateral }
      book params m
      settle params m moved
      pure value) := by
  have hshares : moved.shares.toNat ≤ (m.account who).borrowShares.toNat := hshares
  simp only [settle, bind_assoc]
  -- what an account has, the total has, so the second subtraction is not refused either
  refine counts_catchUp (fun e => Amount.sub_ne_error_of_le ?_)
    fun left hleft => ⟨?_, .pure _⟩
  · exact hshares.trans (hm.borrow_le who)
  · have hleft : left.toNat + moved.shares.toNat = m.totals.borrowShares.toNat :=
      Amount.sub_eq_ok.1 hleft
    refine Market.Balanced.setAccount hm ?_ rfl
    change left.toNat + (m.account who).borrowShares.toNat = m.totals.borrowShares.toNat +
      ((m.account who).borrowShares.toNat - moved.shares.toNat)
    omega

theorem movementOf_defined (totals : Totals) (amount : RepayAmount) :
    Defined (movementOf totals amount) := by
  cases amount with
  | assets assets => exact .bind (Share.ofAssets_defined _ _ _ _) fun _ _ => .ok _
  | shares shares => exact .bind (Share.toAssets_defined _ _ _ _) fun _ _ => .ok _

theorem counts_repay (params : MarketParams) (who : Address) (amount : RepayAmount) :
    Counts (repay params who amount) := by
  refine .bind (counts_accrue params) fun _ => ?_
  refine (attains_market params).bind_keeps fun m hm => ?_
  refine .bind (counts_compute (movementOf_defined _ _)) fun moved => ?_
  refine .bind (counts_require _ (by simp)) fun _ => ?_
  refine (Action.Attains.require _ (by simp)).bind_keeps fun _ hshares => ?_
  refine .bind (.read _) fun pool => .bind (counts_move _ _ _ _) fun _ => ?_
  exact counts_settle hm hshares (m.account who).collateral moved

theorem counts_liquidate (params : MarketParams) (borrower : Address)
    (seized repaidShares : Amount) (liquidator : Address) :
    Counts (liquidate params borrower seized repaidShares liquidator) := by
  refine .bind (counts_accrue params) fun _ => ?_
  refine (attains_market params).bind_keeps fun m hm => .bind (.read _) fun price => ?_
  refine .bind (counts_compute (Market.isHealthy_defined _ _ _)) fun healthy => ?_
  refine .bind (counts_require _ (by simp)) fun _ => ?_
  refine Action.Attains.bind_keeps (attains_compute (movementOf_defined _ _))
    fun moved hmoved => ?_
  refine (Action.Attains.require _ (by simp)).bind_keeps fun _ hshares => ?_
  refine .bind (counts_require _ (by simp)) fun _ => .bind (.read _) fun pool => ?_
  refine .bind (counts_move _ _ _ _) fun _ => .bind (counts_move _ _ _ _) fun _ => ?_
  -- a liquidation settles as a repayment of shares does
  obtain ⟨assets, -, hpure⟩ := Except.bind_eq_ok.1 hmoved
  obtain rfl := Except.ok.inj hpure
  exact counts_settle hm hshares ((m.account borrower).collateral.truncatedSub seized) _

end Bank

/-! ## Runs -/

theorem PoolRequest.counts (r : PoolRequest) : Bank.Counts r.perform := by
  cases r with
  | createMarket params rate =>
    intro b hb
    exact hb.booked (Market.balanced_opened params b.pool.now rate)
  | setRate params rate => exact Bank.counts_setRate params rate
  | setPrice oracle price => exact fun _ hb => hb
  | advance seconds =>
    intro b hb
    simp only [perform, Action.ends_bind, Action.ends_read, Action.ends_orAbort,
      Action.ends_modify]
    intro pool hpool
    obtain ⟨now, -, rfl⟩ := Option.map_eq_some_iff.1 hpool
    exact hb
  | accrue params => exact Bank.counts_accrue params
  | supply params lender assets =>
    exact .bind (Bank.counts_supply params lender assets) fun _ => .pure _
  | supplyCollateral params who amount => exact Bank.counts_supplyCollateral params who amount
  | withdrawCollateral params who amount receiver =>
    exact Bank.counts_withdrawCollateral params who amount receiver
  | borrow params who assets receiver =>
    exact .bind (Bank.counts_borrow params who assets receiver) fun _ => .pure _
  | repay params who amount =>
    exact .bind (Bank.counts_repay params who amount) fun _ => .pure _
  | liquidate params borrower seized repaidShares liquidator =>
    exact .bind (Bank.counts_liquidate params borrower seized repaidShares liquidator)
      fun _ => .pure _

/-- No repayment, in particular, subtracts shares that are not there. -/
theorem Bank.keepsBalance_repay (params : MarketParams) (who : Address) (amount : RepayAmount) :
    KeepsBalance (repay params who amount) := (counts_repay params who amount).keepsBalance

theorem Bank.keepsBalance_liquidate (params : MarketParams) (borrower : Address)
    (seized repaidShares : Amount) (liquidator : Address) :
    KeepsBalance (liquidate params borrower seized repaidShares liquidator) :=
  (counts_liquidate params borrower seized repaidShares liquidator).keepsBalance

theorem PoolRequest.keepsBalance (r : PoolRequest) : Bank.KeepsBalance r.perform :=
  r.counts.keepsBalance

/-- Every request to the chain keeps the balance. -/
theorem after_balanced {r : ChainRequest} {c c' : Chain} (hc : c.toBank.Balanced)
    (h : r.after c = some c') : c'.toBank.Balanced := by
  obtain ⟨q, rfl, hb⟩ | hpool := ChainRequest.after_bank h
  · exact q.counts.after hc hb
  · -- there are no shares outside the pool
    intro id m hm
    rw [hpool] at hm
    exact hc id m hm

theorem balanced_of_moves {P : ChainRequest → Prop} {c c' : Chain} (h : Chain.Moves P c c')
    (hc : c.toBank.Balanced) : c'.toBank.Balanced := by
  apply Chain.Comes.keeps (I := fun c => c.toBank.Balanced) h hc
  intro r d d' _ hd hafter
  exact after_balanced hd hafter

theorem balanced_create (pool router feeRecipient : Address) :
    (Chain.create pool router feeRecipient).toBank.Balanced := by
  intro id m hm
  rw [Chain.create, Pool.create, FiniteMap.get?_empty] at hm
  cases hm

/-- In a world that can come about, every market counts its shares alike. -/
theorem balanced_of_reachable {w : Leverage.World} (hw : w.Reachable) :
    w.chain.toBank.Balanced := by
  obtain ⟨pool, router, feeRecipient, hmoves⟩ := hw.moves
  exact balanced_of_moves hmoves (balanced_create pool router feeRecipient)

end LeveredBasket.Lending

namespace LeveredBasket.Leverage

open Lending (Bank)

/-- **Shares are conserved.** In a world that can come about, the totals of every market count the
shares that its accounts have. Therefore no repayment and no liquidation is ever refused because
more shares were taken off a total than it has, neither directly nor within an operation. -/
theorem World.Reachable.shares_conserved {w : World} (hw : w.Reachable) :
    (∀ id m, w.chain.pool.markets.get? id = some m → m.Balanced) ∧
    (∀ params who amount b,
      (Bank.repay params who amount).run w.chain.toBank ≠ .refused (.math .underflow) b) ∧
    (∀ params borrower seized repaidShares liquidator b,
      (Bank.liquidate params borrower seized repaidShares liquidator).run w.chain.toBank ≠
        .refused (.math .underflow) b) ∧
    ∀ (r : DeskRequest) w', r.perform.run w ≠ .refused (.lending (.math .underflow)) w' := by
  have hbalanced := Lending.balanced_of_reachable hw
  refine ⟨hbalanced, ?_, ?_, ?_⟩
  · intro params who amount b hrefused
    exact ((Bank.keepsBalance_repay params who amount _ hbalanced).refused hrefused).2 rfl
  · intro params borrower seized repaidShares liquidator b hrefused
    exact ((Bank.keepsBalance_liquidate params borrower seized repaidShares liquidator _
      hbalanced).refused hrefused).2 rfl
  · intro r w' hrefused
    -- within an operation, the pool was asked on a chain that requests had moved there
    obtain ⟨basket, c, q, b, hc, -, hq⟩ :=
      DeskRequest.refused_by_pool hw.orderly (fun _ _ => trivial) hrefused
    have hbalanced' := Lending.balanced_of_moves hc hbalanced
    exact ((q.keepsBalance _ hbalanced').refused hq).2 rfl

open Deployment in
/-- So it is once the basket of the reference deployment is levered. -/
theorem World.shares_conserved_of_levering : ∃ w m,
    World.runs levering (start .usual) = some w ∧
      w.chain.pool.markets.get? params.id = some m ∧ 0 < m.totals.borrowShares.toNat ∧
      m.Balanced := by
  have hlevers : ((World.runs levering (start .usual)).bind fun w =>
      (w.chain.pool.markets.get? params.id).map fun m => decide (0 < m.totals.borrowShares.toNat)) =
      some true := by decide +kernel
  obtain ⟨w, hw, hmarket⟩ := Option.bind_eq_some_iff.1 hlevers
  obtain ⟨m, hm, hpos⟩ := Option.map_eq_some_iff.1 hmarket
  have hreachable : w.Reachable := ⟨pool, router, feeRecipient, holder, owner, .usual, _, hw⟩
  exact ⟨w, m, hw, hm, of_decide_eq_true hpos,
    (World.Reachable.shares_conserved hreachable).1 _ m hm⟩

end LeveredBasket.Leverage
