/-
Markets are apart from each other.

A market is found under the hash of its parameters (`MarketParams::id`). The bytes that are
hashed are the five parameters in fixed widths, so that they can be read back
(`MarketParams.bytes_injective`), and two markets have one name only if their bytes are a
collision of the hash function. Two given markets are asked not to be such a pair. That there
were no collision at all could not be asked: there are more strings of 48 bytes than names.

A call on a market books that market only, whether or not it is refused half way, and leaves
prices and the clock (`Bank.Untouched`). What a call on another market does up to and including
its health check reads nothing else, and in particular no tokens. Each such call is cut behind
its check (`withdrawCollateral_eq` and others), and what stands in front of the cut is run side
by side on both banks.
-/
import LeveredBasket.Deployment
import LeveredBasket.Proofs.Lending.Standing

set_option autoImplicit false

namespace LeveredBasket

/-! ## What is told apart -/

/-- **Two strings of one size are a collision**: they differ, and their digests do not. -/
def Sha256.Collision (size : Nat) (x y : Bytes) : Prop :=
  x.length = size ∧ y.length = size ∧ x ≠ y ∧ digest x = digest y

namespace Lending

namespace Bank

/-- **A market is untouched**: it is as it was, with its totals, its rate and every account, and so
is all that it is judged by. -/
structure Untouched (id : MarketId) (b b' : Bank) : Prop where
  market : b'.pool.markets.get? id = b.pool.markets.get? id
  prices : b'.pool.prices = b.pool.prices
  now : b'.pool.now = b.pool.now

/-- Takes collateral out of an account, as far as it stays healthy without it. -/
def release (params : MarketParams) (who : Address) (amount : Amount) : Call Unit := do
  .require (amount ≠ 0) .zeroAmount
  accrue params
  let m ← market params
  let price ← .read (·.pool.price params)
  let account := m.account who
  .require (amount ≤ account.collateral) (.withdrawExceedsCollateral amount account.collateral)
  let m := m.setAccount who
    { account with collateral := account.collateral.truncatedSub amount }
  book params m
  let healthy ← compute (m.isHealthy who price)
  .require (healthy = true) .insufficientCollateral

/-- Books a debt, as far as the account is healthy with it. The values are the market then, and the
shares of the debt. -/
def indebt (params : MarketParams) (who : Address) (assets : Amount) : Call (Market × Amount) := do
  .require (assets ≠ 0) .zeroAmount
  accrue params
  let m ← market params
  let price ← .read (·.pool.price params)
  let shares ← compute (Share.ofAssets .up assets m.totals.borrowAssets m.totals.borrowShares)
  let borrowAssets ← compute (m.totals.borrowAssets.add assets)
  let m := { m with totals := { m.totals with borrowAssets := borrowAssets } }
  book params m
  let borrowShares ← compute (m.totals.borrowShares.add shares)
  let m := { m with totals := { m.totals with borrowShares := borrowShares } }
  book params m
  let account := m.account who
  let owed ← compute (account.borrowShares.add shares)
  let m := m.setAccount who { account with borrowShares := owed }
  book params m
  let healthy ← compute (m.isHealthy who price)
  .require (healthy = true) .insufficientCollateral
  pure (m, shares)

/-- The market with an account in it that is not healthy. -/
def unhealthy (params : MarketParams) (borrower : Address) : Call Market := do
  accrue params
  let m ← market params
  let price ← .read (·.pool.price params)
  let healthy ← compute (m.isHealthy borrower price)
  .require (healthy = false) .insufficientCollateral
  pure m

end Bank

namespace PoolRequest

/-- What a request does up to and including its health check; nothing, if it has none. -/
def checked : PoolRequest → Bank.Call Unit
  | withdrawCollateral params who amount _ => Bank.release params who amount
  | borrow params who assets _ => do let _ ← Bank.indebt params who assets
  | liquidate params borrower _ _ _ => do let _ ← Bank.unhealthy params borrower
  | createMarket .. | setRate .. | setPrice .. | advance _ | accrue _ | supply ..
  | supplyCollateral .. | repay .. => pure ()

/-- **A request passes its health check** if it comes as far as behind it. -/
def Passes (q : PoolRequest) (b : Bank) : Prop := ∃ s, q.checked.run b = .done () s

end PoolRequest

/-! ## Names (`MarketParams::id`) -/

namespace MarketParams

variable {p q : MarketParams}

theorem length_bytes (p : MarketParams) : p.bytes.length = 48 := by
  simp only [bytes, List.length_append, Bytes.length_bigEndian]

/-- **Parameters are told by their bytes**, for each has its own, and as many as it needs. -/
theorem bytes_injective (h : p.bytes = q.bytes) : p = q := by
  have hlength (count m n : Nat) :
      (Bytes.bigEndian count m).length = (Bytes.bigEndian count n).length := by
    rw [Bytes.length_bigEndian, Bytes.length_bigEndian]
  have haddress {x y : Address}
      (hxy : Bytes.bigEndian 8 x.value.toNat = Bytes.bigEndian 8 y.value.toNat) : x = y :=
    Address.ext (Word.ext (Bytes.bigEndian_inj x.value.isLt y.value.isLt hxy))
  have hamount {x y : Amount} (hxy : Bytes.bigEndian 16 x.toNat = Bytes.bigEndian 16 y.toNat) :
      x = y := Word.ext (Bytes.bigEndian_inj x.isLt y.isLt hxy)
  -- the last parameter is cut off, and then the one before it
  obtain ⟨h, hthreshold⟩ := List.append_inj' h (hlength 16 _ _)
  obtain ⟨h, hmodel⟩ := List.append_inj' h (hlength 8 _ _)
  obtain ⟨h, horacle⟩ := List.append_inj' h (hlength 8 _ _)
  obtain ⟨hloan, hcollateral⟩ := List.append_inj' h (hlength 8 _ _)
  cases p
  cases q
  rw [MarketParams.mk.injEq]
  exact ⟨haddress hloan, haddress hcollateral, haddress horacle, haddress hmodel,
    hamount hthreshold⟩

/-- Names are the same only where the hash function collides. -/
theorem id_ne (hne : p ≠ q) (hhash : ¬ Sha256.Collision 48 p.bytes q.bytes) : p.id ≠ q.id := by
  intro hid
  have hdigest : Sha256.digest p.bytes = Sha256.digest q.bytes := congrArg MarketId.value hid
  exact hhash ⟨p.length_bytes, q.length_bytes, fun h => hne (bytes_injective h), hdigest⟩

end MarketParams

namespace Bank

variable {params : MarketParams} {id : MarketId} {b b' : Bank}

/-! ## Calls cut behind their health check -/

/-- To take collateral back is to release it and to move it. -/
theorem withdrawCollateral_eq (who : Address) (amount : Amount) (receiver : Address) :
    withdrawCollateral params who amount receiver = (do
      release params who amount
      let pool ← .read (·.pool.address)
      move params.collateralAsset pool receiver amount) := by
  simp only [withdrawCollateral, release, bind_assoc]

/-- To borrow is to book a debt and to move what there is of the loan asset. -/
theorem borrow_eq (who : Address) (assets : Amount) (receiver : Address) :
    borrow params who assets receiver = (do
      let (m, shares) ← indebt params who assets
      .require (m.totals.borrowAssets ≤ m.totals.supplyAssets)
        (.insufficientLiquidity assets
          (m.totals.supplyAssets.truncatedSub (m.totals.borrowAssets.truncatedSub assets)))
      let pool ← .read (·.pool.address)
      move params.loanAsset pool receiver assets
      pure ⟨assets, shares⟩) := by
  simp only [borrow, indebt, bind_assoc, pure_bind]

/-- To liquidate is to find an account that is not healthy and to settle a part of its debt. -/
theorem liquidate_eq (borrower : Address) (seized repaidShares : Amount) (liquidator : Address) :
    liquidate params borrower seized repaidShares liquidator = (do
      let m ← unhealthy params borrower
      let moved ← compute (movementOf m.totals (.shares repaidShares))
      let account := m.account borrower
      .require (repaidShares ≤ account.borrowShares)
        (.repayExceedsDebt repaidShares account.borrowShares)
      .require (seized ≤ account.collateral)
        (.withdrawExceedsCollateral seized account.collateral)
      let pool ← .read (·.pool.address)
      move params.loanAsset liquidator pool moved.assets
      move params.collateralAsset pool liquidator seized
      let m := m.setAccount borrower
        { account with
          borrowShares := account.borrowShares.truncatedSub repaidShares
          collateral := account.collateral.truncatedSub seized }
      book params m
      settle params m moved
      pure moved) := by
  simp only [liquidate, unhealthy, bind_assoc, pure_bind]

/-! ## What a market's calls look at -/

theorem Untouched.refl (id : MarketId) (b : Bank) : b.Untouched id b := ⟨rfl, rfl, rfl⟩

theorem Untouched.trans {c : Bank} (h : b.Untouched id b') (h' : b'.Untouched id c) :
    b.Untouched id c :=
  ⟨h'.market.trans h.market, h'.prices.trans h.prices, h'.now.trans h.now⟩

/-- Nothing that is done with a market of another name touches it. -/
theorem closedAt_untouched (h : params.id ≠ id) (b : Bank) :
    ClosedAt params (Untouched id b) := by
  refine ⟨fun b' m hb' => ⟨?_, hb'.prices, hb'.now⟩, fun _ hb' => ⟨hb'.market, hb'.prices, hb'.now⟩⟩
  rw [get?_booked, if_neg h.symm]
  exact hb'.market

theorem agrees_untouched (params : MarketParams) : Agrees params (Untouched params.id) :=
  ⟨fun h => h.market, fun h => h.now,
    fun _ h => ⟨get?_booked_self.trans get?_booked_self.symm, h.prices, h.now⟩⟩

theorem relates_price (params : MarketParams) :
    (Action.read (·.pool.price params) : Call Amount).Relates (Untouched id) (Untouched id) := by
  refine .read fun b b' h => ?_
  rw [Pool.price, Pool.price, h.prices]

/-- The release of collateral is a matter of the market and its price. -/
theorem relates_release (who : Address) (amount : Amount) :
    (release params who amount).Relates (Untouched params.id) (Untouched params.id) := by
  have hq := agrees_untouched params
  refine .bind (.require _ _) fun _ => .bind hq.relates_accrue fun _ => ?_
  refine .bind hq.relates_market fun m => .bind (relates_price params) fun price => ?_
  refine .bind (.require _ _) fun _ => .bind (hq.relates_book _) fun _ => ?_
  exact .bind (.ofExcept _) fun healthy => .require _ _

/-- So is the booking of a debt. -/
theorem relates_indebt (who : Address) (assets : Amount) :
    (indebt params who assets).Relates (Untouched params.id) (Untouched params.id) := by
  have hq := agrees_untouched params
  refine .bind (.require _ _) fun _ => .bind hq.relates_accrue fun _ => ?_
  refine .bind hq.relates_market fun m => .bind (relates_price params) fun price => ?_
  refine .bind (.ofExcept _) fun shares => .bind (.ofExcept _) fun debts => ?_
  refine .bind (hq.relates_book _) fun _ => .bind (.ofExcept _) fun borrowShares => ?_
  refine .bind (hq.relates_book _) fun _ => .bind (.ofExcept _) fun owed => ?_
  refine .bind (hq.relates_book _) fun _ => .bind (.ofExcept _) fun healthy => ?_
  exact .bind (.require _ _) fun _ => .pure _

/-- So is whether an account can be liquidated. -/
theorem relates_unhealthy (borrower : Address) :
    (unhealthy params borrower).Relates (Untouched params.id) (Untouched params.id) := by
  have hq := agrees_untouched params
  refine .bind hq.relates_accrue fun _ => .bind hq.relates_market fun m => ?_
  refine .bind (relates_price params) fun price => .bind (.ofExcept _) fun healthy => ?_
  exact .bind (.require _ _) fun _ => .pure _

end Bank

namespace PoolRequest

variable {p q : MarketParams} {call : PoolRequest} {b b' s : Bank} {e : LendingError}

theorem not_passes (h : call.checked.run b = .refused e s) : ¬ call.Passes b := by
  rintro ⟨t, ht⟩
  rw [h] at ht
  cases ht

/-- What is refused by then is refused. -/
theorem refused_of_checked (h : call.checked.run b = .refused e s) :
    call.perform.run b = .refused e s := by
  cases call with
  | withdrawCollateral params who amount receiver =>
    change (Bank.release params who amount).run b = .refused e s at h
    change (Bank.withdrawCollateral params who amount receiver).run b = .refused e s
    rw [Bank.withdrawCollateral_eq, Action.run_bind, h]
  | borrow params who assets receiver =>
    have hindebt := Action.run_forget_eq_refused.1 h
    refine Action.run_forget_eq_refused.2 ?_
    rw [Bank.borrow_eq, Action.run_bind, hindebt]
  | liquidate params borrower seized repaidShares liquidator =>
    have hunhealthy := Action.run_forget_eq_refused.1 h
    refine Action.run_forget_eq_refused.2 ?_
    rw [Bank.liquidate_eq, Action.run_bind, hunhealthy]
  | createMarket | setRate | setPrice | advance | accrue | supply | supplyCollateral | repay =>
    cases h

/-- **The way to a health check is a matter of the market, the prices and the clock.** -/
theorem relates_checked (hq : call.market? = some q) :
    call.checked.Relates (Bank.Untouched q.id) (Bank.Untouched q.id) := by
  cases call with
  | withdrawCollateral params who amount receiver =>
    cases hq
    exact Bank.relates_release who amount
  | borrow params who assets receiver =>
    cases hq
    exact .bind (Bank.relates_indebt who assets) fun _ => .pure _
  | liquidate params borrower seized repaidShares liquidator =>
    cases hq
    exact .bind (Bank.relates_unhealthy borrower) fun _ => .pure _
  | createMarket | setRate | setPrice | advance | accrue | supply | supplyCollateral | repay =>
    exact .pure ()

/-- Where a market is untouched, requests that name it pass as before, and are refused as before. -/
theorem passes_of_untouched (h : Bank.Untouched q.id b b') (hq : call.market? = some q) :
    (call.Passes b' ↔ call.Passes b) ∧
      (¬ call.Passes b → ∃ e s s',
        call.perform.run b = .refused e s ∧ call.perform.run b' = .refused e s') := by
  have halike := relates_checked hq b b' h
  generalize hb : call.checked.run b = o at halike
  generalize hb' : call.checked.run b' = o' at halike
  cases halike with
  | done =>
    have hpasses : call.Passes b := ⟨_, hb⟩
    exact ⟨iff_of_true ⟨_, hb'⟩ hpasses, fun hnot => absurd hpasses hnot⟩
  | refused e s s' =>
    refine ⟨iff_of_false (not_passes hb') (not_passes hb), fun _ => ?_⟩
    exact ⟨e, s, s', refused_of_checked hb, refused_of_checked hb'⟩

/-! ## Other markets -/

/-- What a request does that names a market, it does not do to a market of another name. -/
theorem untouched_of_after {id : MarketId} (hp : call.market? = some p) (hid : p.id ≠ id)
    (hafter : call.perform.after b = some b') : b.Untouched id b' :=
  (keeps_closedAt (Bank.closedAt_untouched hid b) hp).after (.refl id b) hafter

/-- **Whatever is done with markets of other names**, done or refused, one call after another, a
market is untouched. -/
theorem untouched_of_history {id : MarketId} {calls : List PoolRequest}
    (hcalls : ∀ call ∈ calls, ∃ p, call.market? = some p ∧ p.id ≠ id)
    (hafter : calls.foldlM (fun b call => call.perform.after b) b = some b') :
    b.Untouched id b' := by
  induction calls generalizing b with
  | nil =>
    obtain rfl : b = b' := Option.some.inj hafter
    exact .refl id b
  | cons call rest ih =>
    rw [List.foldlM_cons] at hafter
    obtain ⟨c, hc, hrest⟩ := Option.bind_eq_some_iff.1 hafter
    obtain ⟨p, hp, hid⟩ := hcalls call List.mem_cons_self
    have hfirst : b.Untouched id c := untouched_of_after hp hid hc
    exact hfirst.trans (ih (fun q hq => hcalls q (List.mem_cons_of_mem call hq)) hrest)

end PoolRequest

/-- **Markets are isolated.** Different parameters have different bytes, and different names unless
these bytes collide. Then no call on the one market, done or refused half way, changes anything in
the other one: neither its totals, with the second of the last update, nor its rate, nor any
account. Nor does it change which calls on the other one pass their health check; those that do not
pass are refused as before. -/
theorem MarketParams.isolated {p q : MarketParams} (hne : p ≠ q)
    (hhash : ¬ Sha256.Collision 48 p.bytes q.bytes) :
    p.bytes ≠ q.bytes ∧ p.id ≠ q.id ∧
    ∀ (call : PoolRequest) (b b' : Bank), call.market? = some p →
      call.perform.after b = some b' →
      b'.pool.markets.get? q.id = b.pool.markets.get? q.id ∧
      ∀ other : PoolRequest, other.market? = some q →
        (other.Passes b' ↔ other.Passes b) ∧
        (¬ other.Passes b → ∃ e s s',
          other.perform.run b = .refused e s ∧ other.perform.run b' = .refused e s') := by
  have hid := MarketParams.id_ne hne hhash
  refine ⟨fun h => hne (bytes_injective h), hid, fun call b b' hp hafter => ?_⟩
  have huntouched := PoolRequest.untouched_of_after hp hid hafter
  exact ⟨huntouched.market, fun other hq => PoolRequest.passes_of_untouched huntouched hq⟩

/-- The reference market with a lower threshold, seven parts in ten of the collateral's value. -/
def stricter : MarketParams :=
  { Deployment.params with threshold := ⟨700_000_000_000_000_000, by decide⟩ }

/-- Two markets that differ in the threshold alone. In the second one a debt of one unit is secured
by three units of collateral, at a price of one. -/
def neighbours : Bank :=
  ⟨.empty, { Pool.create Deployment.pool with
    prices := FiniteMap.empty.insert Deployment.oracle Market.priceScale
    markets := (FiniteMap.empty.insert Deployment.params.id
        ⟨Deployment.params, .opened 0, .empty, 0⟩).insert stricter.id
      ⟨stricter, ⟨1, 0, 1, Share.virtualShares, 0, 0⟩,
        FiniteMap.empty.insert Deployment.manager ⟨0, Share.virtualShares, ⟨3, by decide⟩⟩, 0⟩ }⟩

open Deployment in
/-- So it is for a borrowing in the first of two such markets, which is booked and then refused for
want of collateral: in the second one, a unit of collateral can still be released, and no more. -/
theorem MarketParams.isolated_of_neighbours : ∃ b' two,
    params ≠ stricter ∧ ¬ Sha256.Collision 48 params.bytes stricter.bytes ∧
    (Bank.borrow params manager 1 manager).run neighbours =
      .refused .insufficientCollateral b' ∧
    b'.pool.markets.get? params.id ≠ neighbours.pool.markets.get? params.id ∧
    b'.pool.markets.get? stricter.id = neighbours.pool.markets.get? stricter.id ∧
    (PoolRequest.withdrawCollateral stricter manager 1 manager).Passes b' ∧
    two.toNat = 2 ∧ ¬ (PoolRequest.withdrawCollateral stricter manager two manager).Passes b' := by
  have hne : params ≠ stricter := by decide
  have hdigests : Sha256.digest params.bytes ≠ Sha256.digest stricter.bytes := by decide +kernel
  have hhash : ¬ Sha256.Collision 48 params.bytes stricter.bytes := by
    rintro ⟨-, -, -, hsame⟩
    exact hdigests hsame
  have hborrow : ((Bank.borrow params manager 1 manager).run neighbours).isRefusedWith
      (fun e b' => e = .insufficientCollateral &&
        b'.pool.markets.get? params.id ≠ neighbours.pool.markets.get? params.id) = true := by
    decide +kernel
  obtain ⟨e, b', hrun, hends⟩ := Outcome.exists_of_isRefusedWith hborrow
  simp only [Bool.and_eq_true, decide_eq_true_eq] at hends
  obtain ⟨rfl, hbooked⟩ := hends
  have hafter : (PoolRequest.borrow params manager 1 manager).perform.after neighbours =
      some b' := by
    rw [PoolRequest.perform, Action.after_forget, Action.after, hrun]
    rfl
  let two : Amount := ⟨2, by decide⟩
  obtain ⟨a, s, hone⟩ := Outcome.exists_of_isDone (o := (PoolRequest.checked
    (.withdrawCollateral stricter manager 1 manager)).run neighbours) (by decide +kernel)
  have htwo : ((PoolRequest.checked
    (.withdrawCollateral stricter manager two manager)).run neighbours).isDone = false := by
    decide +kernel
  have hnot :
      ¬ (PoolRequest.withdrawCollateral stricter manager two manager).Passes neighbours := by
    rintro ⟨s, hs⟩
    rw [hs] at htwo
    cases htwo
  obtain ⟨-, -, hisolated⟩ := MarketParams.isolated hne hhash
  obtain ⟨hmarket, hchecks⟩ := hisolated (.borrow params manager 1 manager) neighbours b' rfl hafter
  refine ⟨b', two, hne, hhash, hrun, hbooked, hmarket, ?_, rfl, ?_⟩
  · exact (hchecks (.withdrawCollateral stricter manager 1 manager) rfl).1.2 ⟨s, hone⟩
  · exact fun hpasses => hnot ((hchecks _ rfl).1.1 hpasses)

end Lending

end LeveredBasket
