/-
Deposits are covered and never shrink.

What a lender can claim (`SimMarket::supplied_assets`) is a number of shares at the
price of a share, which is the assets and one over the shares and a million. No
call lowers that price: interest raises the assets alone, and a deposit buys its
shares at no less than they are worth. No call takes shares of a deposit away
either. Both hold of every booking that a call makes on the way, so also of what a
refused call leaves (`Market.Follows`, `PoolRequest.follows`).

The price starts at one asset to a million shares. That it never falls is the
invariant behind the bound of the shares by the assets; that the claims of all
lenders together are covered needs only that shares are conserved.
-/
import LeveredBasket.Proofs.Lending.Bystanders
import LeveredBasket.Proofs.Leverage.Liquidation

set_option autoImplicit false

namespace LeveredBasket

/-! ## What requests open and write -/

open Lending (MarketId)

/-- The market that a request opens, in place of any market of that name. -/
def ChainRequest.opens? : ChainRequest → Option MarketId
  | .pool q => q.opens?
  | _ => none

/-- Whose account a request writes. -/
def ChainRequest.account? : ChainRequest → Option Address
  | .pool q => q.account?
  | _ => none

/-- The market that a request opens, in place of any market of that name. -/
def Leverage.Request.opens? : Leverage.Request → Option MarketId
  | .chain q => q.opens?
  | .desk _ => none

end LeveredBasket

namespace LeveredBasket.Lending

/-! ## What deposits are worth -/

/-- What so many deposit shares are worth, rounded down. -/
def Totals.worth (t : Totals) (shares : Amount) : Nat :=
  shares.toNat * (t.supplyAssets.toNat + 1) / (t.supplyShares.toNat + 1000000)

/-- What a lender has in the market, rounded down. -/
def Market.worth (m : Market) (who : Address) : Nat := m.totals.worth (m.account who).supplyShares

/-- What all lenders have in the market, each of them rounded down. -/
def Market.worthOfAll (m : Market) : Nat :=
  m.accounts.total fun _ a => m.totals.worth a.supplyShares

/-- **A deposit share is no cheaper** at `t'` than at `t`. -/
def Totals.NoCheaper (t t' : Totals) : Prop :=
  (t.supplyAssets.toNat + 1) * (t'.supplyShares.toNat + 1000000) ≤
    (t'.supplyAssets.toNat + 1) * (t.supplyShares.toNat + 1000000)

/-- **`m'` follows from `m` by calls on the account of `who?`**, whether or not they have gone
through: no other account is another, nobody has fewer deposit shares, and none is cheaper. -/
structure Market.Follows (who? : Option Address) (m m' : Market) : Prop where
  others : ∀ z, some z ≠ who? → m'.account z = m.account z
  shares : ∀ z, (m.account z).supplyShares.toNat ≤ (m'.account z).supplyShares.toNat
  price : m.totals.NoCheaper m'.totals

/-- So does every market of `b'` from that of `b`, and there are no others. -/
def Bank.Follows (who? : Option Address) (b b' : Bank) : Prop :=
  ∀ id, Option.Rel (Market.Follows who?) (b.pool.markets.get? id) (b'.pool.markets.get? id)

/-- A market of these parameters that follows from the one that is there. -/
def Bank.Draws (who? : Option Address) (b : Bank) (params : MarketParams) (m : Market) : Prop :=
  ∃ m₀, b.pool.markets.get? params.id = some m₀ ∧ m₀.Follows who? m

/-- The totals of every market have at least an asset to a million shares. -/
def Bank.Priced (b : Bank) : Prop := ∀ id m, b.pool.markets.get? id = some m →
  m.totals.supplyShares.toNat ≤ 1000000 * m.totals.supplyAssets.toNat

/-! ## What is there before and after -/

section Rel

variable {α : Type} {R : α → α → Prop} {a : α} {x : Option α}

theorem exists_of_rel_some (h : Option.Rel R (some a) x) : ∃ b, x = some b ∧ R a b := by
  cases h with
  | some hab => exact ⟨_, rfl, hab⟩

theorem exists_of_rel_some_right (h : Option.Rel R x (some a)) : ∃ b, x = some b ∧ R b a := by
  cases h with
  | some hba => exact ⟨_, rfl, hba⟩

theorem eq_none_of_rel_none (h : Option.Rel R none x) : x = none := by
  cases h with
  | none => rfl

end Rel

/-! ## Prices of a deposit share -/

section Prices

variable {s s' P P' Q Q' a sh : Nat}

/-- At a price that is no lower, no fewer shares are worth no less, rounded down. -/
theorem div_le_div_of_price (hQ : 0 < Q) (hQ' : 0 < Q') (hs : s ≤ s') (h : P * Q' ≤ P' * Q) :
    s * P / Q ≤ s' * P' / Q' := by
  refine (Nat.le_div_iff_mul_le hQ').2 (Nat.le_of_mul_le_mul_right ?_ hQ)
  calc s * P / Q * Q' * Q = s * P / Q * Q * Q' := Nat.mul_right_comm _ _ _
    _ ≤ s * P * Q' := Nat.mul_le_mul_right Q' (Nat.div_mul_le_self _ _)
    _ = s * (P * Q') := Nat.mul_assoc _ _ _
    _ ≤ s' * (P' * Q) := Nat.mul_le_mul hs h
    _ = s' * P' * Q := (Nat.mul_assoc _ _ _).symm

/-- **A deposit is worth at most what is paid for it**, also to one who has shares of which it
raises the price: the others have the rest of them. -/
theorem worth_deposit_le (hQ : 0 < Q) (hs : s ≤ Q) (hsh : sh * P ≤ a * Q) :
    (s + sh) * (P + a) / (Q + sh) ≤ s * P / Q + a := by
  rw [← Nat.add_mul_div_right _ _ hQ]
  have hpos : 0 < Q + sh := Nat.add_pos_left hQ sh
  refine (Nat.le_div_iff_mul_le hQ).2 (Nat.le_of_mul_le_mul_right ?_ hpos)
  have hmine : (s + sh) * (P + a) / (Q + sh) * (Q + sh) ≤ (s + sh) * (P + a) :=
    Nat.div_mul_le_self _ _
  obtain ⟨rest, rfl⟩ := Nat.exists_eq_add_of_le hs
  have hothers : rest * (sh * P) ≤ rest * (a * (s + rest)) := Nat.mul_le_mul_left rest hsh
  calc (s + sh) * (P + a) / (s + rest + sh) * (s + rest) * (s + rest + sh)
      = (s + sh) * (P + a) / (s + rest + sh) * (s + rest + sh) * (s + rest) :=
        Nat.mul_right_comm _ _ _
    _ ≤ (s + sh) * (P + a) * (s + rest) := Nat.mul_le_mul_right _ hmine
    _ ≤ (s * P + a * (s + rest)) * (s + rest + sh) := by nlinarith

end Prices

namespace Totals

variable {t t' t'' : Totals} {assets shares d : Amount}

theorem NoCheaper.refl (t : Totals) : t.NoCheaper t := Nat.le_refl _

theorem NoCheaper.trans (h : t.NoCheaper t') (h' : t'.NoCheaper t'') : t.NoCheaper t'' := by
  unfold NoCheaper at h h' ⊢
  have hpos : 0 < t'.supplyShares.toNat + 1000000 := Nat.succ_pos _
  refine Nat.le_of_mul_le_mul_right ?_ hpos
  have hfirst := Nat.mul_le_mul_right (t''.supplyShares.toNat + 1000000) h
  have hsecond := Nat.mul_le_mul_right (t.supplyShares.toNat + 1000000) h'
  linarith

/-- More assets to the same shares make none cheaper. -/
theorem noCheaper_of_le (hassets : t.supplyAssets.toNat ≤ t'.supplyAssets.toNat)
    (hshares : t'.supplyShares = t.supplyShares) : t.NoCheaper t' := by
  rw [NoCheaper, hshares]
  exact Nat.mul_le_mul_right _ (by omega)

/-- Shares that are bought, rounded down, cost at least what they are worth. -/
theorem noCheaper_of_bought
    (hprice : Share.ofAssets .down assets t.supplyAssets t.supplyShares = .ok shares)
    (hassets : t'.supplyAssets.toNat = t.supplyAssets.toNat + assets.toNat)
    (hshares : t'.supplyShares.toNat = t.supplyShares.toNat + shares.toNat) : t.NoCheaper t' := by
  have hcost := Nat.div_mul_le_self (assets.toNat * (t.supplyShares.toNat + 1000000))
    (t.supplyAssets.toNat + 1)
  rw [← Share.ofAssets_down_eq_ok hprice] at hcost
  rw [NoCheaper, hassets, hshares]
  linarith

/-- A claim is what the shares are worth. -/
theorem claim_eq_ok (h : t.claim shares = .ok d) : d.toNat = t.worth shares :=
  Share.toAssets_down_eq_ok h

end Totals

namespace Market

variable {who? : Option Address} {m m' m'' : Market} {now : Word 64} {z : Address}

theorem Follows.refl (who? : Option Address) (m : Market) : m.Follows who? m :=
  ⟨fun _ _ => rfl, fun _ => Nat.le_refl _, .refl _⟩

theorem Follows.trans (h : m.Follows who? m') (h' : m'.Follows who? m'') : m.Follows who? m'' :=
  ⟨fun z hz => (h'.others z hz).trans (h.others z hz), fun z => (h.shares z).trans (h'.shares z),
    h.price.trans h'.price⟩

/-- **Nobody has less** in a market that follows. -/
theorem Follows.worth_le (h : m.Follows who? m') (z : Address) : m.worth z ≤ m'.worth z :=
  div_le_div_of_price (Nat.succ_pos _) (Nat.succ_pos _) (h.shares z) h.price

/-- The price has never been lower than in an empty market. -/
theorem Follows.priced (h : m.Follows who? m')
    (hm : m.totals.supplyShares.toNat ≤ 1000000 * m.totals.supplyAssets.toNat) :
    m'.totals.supplyShares.toNat ≤ 1000000 * m'.totals.supplyAssets.toNat := by
  have hprice := h.price
  unfold Totals.NoCheaper at hprice
  have hstart : (m'.totals.supplyAssets.toNat + 1) * (m.totals.supplyShares.toNat + 1000000) ≤
      (m'.totals.supplyAssets.toNat + 1) * (1000000 * (m.totals.supplyAssets.toNat + 1)) :=
    Nat.mul_le_mul_left _ (by omega)
  have hrest : (m'.totals.supplyShares.toNat + 1000000) * (m.totals.supplyAssets.toNat + 1) ≤
      1000000 * (m'.totals.supplyAssets.toNat + 1) * (m.totals.supplyAssets.toNat + 1) := by
    linarith
  have hle := Nat.le_of_mul_le_mul_right hrest (Nat.succ_pos _)
  omega

/-- New totals without cheaper shares follow, for whomever. -/
theorem follows_totals {totals : Totals} (h : m.totals.NoCheaper totals) :
    m.Follows who? { m with totals := totals } :=
  ⟨fun _ _ => rfl, fun _ => Nat.le_refl _, h⟩

/-- So does a new account of `who` with no fewer deposit shares. -/
theorem follows_setAccount {who : Address} {a : Account} {totals : Totals}
    (ha : (m.account who).supplyShares.toNat ≤ a.supplyShares.toNat)
    (h : m.totals.NoCheaper totals) :
    m.Follows (some who) { m.setAccount who a with totals := totals } := by
  have hwritten (z : Address) := m.account_setAccount who z a
  refine ⟨fun z hz => ?_, fun z => ?_, h⟩
  · have hother := hwritten z
    rw [if_neg fun hsame => hz (congrArg some hsame)] at hother
    exact hother
  · change (m.account z).supplyShares.toNat ≤ ((m.setAccount who a).account z).supplyShares.toNat
    rw [hwritten z]
    split
    case isTrue hsame =>
      rw [hsame]
      exact ha
    case isFalse => exact Nat.le_refl _

theorem Accrued.follows (h : Accrued now m m') : m.Follows who? m' := by
  obtain ⟨interest, -, hdeposits⟩ := h.interest
  refine ⟨fun z _ => h.account z, fun z => ?_, ?_⟩
  · rw [h.account z]
  · exact Totals.noCheaper_of_le (by omega) h.supplyShares

/-- However interest is accrued, it makes of a deposit the same. -/
theorem Accrued.worth_eq (h : Accrued now m m') (h' : Accrued now m m'') (z : Address) :
    m''.worth z = m'.worth z := by
  rw [worth, worth, Totals.worth, Totals.worth, h.account, h'.account, h.supplyShares,
    h'.supplyShares, h.deposits, h'.deposits]

/-- **All claims together are covered**: each is a part of the assets, and rounded down. -/
theorem Balanced.worthOfAll_le (h : m.Balanced) :
    m.worthOfAll ≤ m.totals.supplyAssets.toNat := by
  have hparts := m.accounts.total_div_mul_le
    (fun _ a => a.supplyShares.toNat * (m.totals.supplyAssets.toNat + 1))
    (m.totals.supplyShares.toNat + 1000000)
  have hall : (m.accounts.total fun _ a =>
      a.supplyShares.toNat * (m.totals.supplyAssets.toNat + 1)) =
      m.totals.supplyShares.toNat * (m.totals.supplyAssets.toNat + 1) := by
    rw [m.accounts.total_mul (fun _ a => a.supplyShares.toNat), h.supply]
    rfl
  rw [hall] at hparts
  -- the assets that the market only counts as its own keep the quotient below the next asset
  refine Nat.lt_succ_iff.1 (Nat.lt_of_mul_lt_mul_right (Nat.lt_of_le_of_lt hparts ?_))
  rw [Nat.mul_comm]
  exact Nat.mul_lt_mul_of_pos_left (by omega) (Nat.succ_pos _)

/-- **A deposit adds to what the lender has at most what it is.** -/
theorem Deposited.worth_le {who : Address} {assets shares : Amount}
    (h : m.Deposited who assets shares m') (hm : m.Balanced) :
    m'.worth who ≤ m.worth who + assets.toNat := by
  have hcost := Nat.div_mul_le_self (assets.toNat * (m.totals.supplyShares.toNat + 1000000))
    (m.totals.supplyAssets.toNat + 1)
  rw [← Share.ofAssets_down_eq_ok h.price] at hcost
  have hpos : 0 < m.totals.supplyShares.toNat + 1000000 := Nat.succ_pos _
  have hmine : (m.account who).supplyShares.toNat ≤ m.totals.supplyShares.toNat + 1000000 :=
    (hm.supply_le who).trans (Nat.le_add_right _ _)
  have hworth := worth_deposit_le hpos hmine hcost
  rw [worth, worth, Totals.worth, Totals.worth, h.account, h.assets, h.shares,
    Nat.add_right_comm _ assets.toNat, Nat.add_right_comm _ shares.toNat]
  exact hworth

end Market

/-! ## Every call follows on, wherever it stops -/

namespace Bank

/-- The call only books markets that follow from those of `b`. -/
abbrev KeepsFollowing {α : Type} (who? : Option Address) (b : Bank) (x : Call α) : Prop :=
  x.Keeps (b.Follows who?) fun _ => True

variable {who? : Option Address} {b b' b'' : Bank} {params : MarketParams} {m m' : Market}
variable {α : Type}

theorem Follows.refl (who? : Option Address) (b : Bank) : b.Follows who? b := by
  intro id
  cases b.pool.markets.get? id with
  | none => exact .none
  | some m => exact .some (.refl _ m)

/-- A market that is there now follows from one that was there. -/
theorem Follows.draws (h : b.Follows who? b')
    (hm : b'.pool.markets.get? params.id = some m) : b.Draws who? params m := by
  have hrel := h params.id
  rw [hm] at hrel
  exact exists_of_rel_some_right hrel

theorem Draws.trans (h : b.Draws who? params m) (h' : m.Follows who? m') :
    b.Draws who? params m' := by
  obtain ⟨m₀, hm₀, hfollows⟩ := h
  exact ⟨m₀, hm₀, hfollows.trans h'⟩

theorem Follows.booked (h : b.Follows who? b') (hm : b.Draws who? params m) :
    b.Follows who? (b'.booked params m) := by
  intro id
  rw [get?_booked]
  split
  case isTrue hid =>
    obtain ⟨m₀, hm₀, hfollows⟩ := hm
    rw [hid, hm₀]
    exact .some hfollows
  case isFalse => exact h id

theorem keepsFollowing_compute (x : Except MathError α) : KeepsFollowing who? b (compute x) := by
  intro b' hb'
  rw [ends_compute]
  exact ⟨fun _ _ => hb', fun _ _ => ⟨hb', trivial⟩⟩

/-- The rest may rely on what was computed. -/
theorem follows_compute (x : Except MathError α) :
    (compute x).Attains (b.Follows who?) (fun _ => True) fun a _ => x = .ok a := by
  intro b' hb'
  rw [ends_compute]
  exact ⟨fun _ ha => ⟨hb', ha⟩, fun _ _ => ⟨hb', trivial⟩⟩

/-- The market that is read follows from the one that was there at first. -/
theorem follows_market (params : MarketParams) :
    (market params).Attains (b.Follows who?) (fun _ => True) fun m _ => b.Draws who? params m := by
  intro b' hb'
  rw [ends_market]
  exact ⟨fun _ hm => ⟨hb', hb'.draws hm⟩, fun _ => ⟨hb', trivial⟩⟩

theorem keepsFollowing_book (hm : b.Draws who? params m) :
    KeepsFollowing who? b (book params m) := fun _ hb' => hb'.booked hm

theorem keepsFollowing_move (asset sender recipient : Address) (amount : Amount) :
    KeepsFollowing who? b (move asset sender recipient amount) := by
  intro b' hb'
  refine (move_spec asset sender recipient amount b').imp ?_ ?_
  · rintro _ _ ⟨t, -, rfl⟩
    exact hb'
  · rintro _ _ ⟨-, rfl, -⟩
    exact ⟨hb', trivial⟩

theorem keepsFollowing_accrue (params : MarketParams) :
    KeepsFollowing who? b (accrue params) := by
  intro b' hb'
  refine (accrue_spec params b').imp ?_ ?_
  · rintro _ _ ⟨m, m', hm, haccrued, rfl⟩
    exact hb'.booked ((hb'.draws hm).trans haccrued.follows)
  · rintro _ _ ⟨-, -, rfl | ⟨m, debt, hm, -, rfl⟩⟩
    · exact ⟨hb', trivial⟩
    · -- the debts have grown and the deposits have not
      exact ⟨hb'.booked ((hb'.draws hm).trans (Market.follows_totals (.refl _))), trivial⟩

theorem keepsFollowing_setRate (params : MarketParams) (rate : Amount) :
    KeepsFollowing who? b (setRate params rate) := by
  refine .bind (keepsFollowing_accrue params) fun _ => ?_
  refine (follows_market params).bind_keeps fun m hm => ?_
  have hrate : m.Follows who? { m with rate := rate } :=
    ⟨fun _ _ => rfl, fun _ => Nat.le_refl _, .refl _⟩
  exact keepsFollowing_book (hm.trans hrate)

theorem keepsFollowing_supply (params : MarketParams) (lender : Address) (assets : Amount) :
    KeepsFollowing (some lender) b (supply params lender assets) := by
  refine .bind (.require _ trivial) fun _ => .bind (keepsFollowing_accrue params) fun _ => ?_
  refine (follows_market params).bind_keeps fun m hm => ?_
  refine Action.Attains.bind_keeps (follows_compute _) fun shares hprice => ?_
  refine .bind (.read _) fun pool => .bind (keepsFollowing_move _ _ _ _) fun _ => ?_
  refine Action.Attains.bind_keeps (follows_compute _) fun supplyAssets hassets => ?_
  have hassets : supplyAssets.toNat = m.totals.supplyAssets.toNat + assets.toNat :=
    Amount.add_eq_ok.1 hassets
  -- first the assets alone, then the shares that they cost, then the account that has them
  have hpaid : m.totals.NoCheaper { m.totals with supplyAssets := supplyAssets } :=
    Totals.noCheaper_of_le (by change _ ≤ supplyAssets.toNat; omega) rfl
  refine .bind (keepsFollowing_book (hm.trans (Market.follows_totals hpaid))) fun _ => ?_
  refine Action.Attains.bind_keeps (follows_compute _) fun supplyShares hshares => ?_
  have hbought : m.totals.NoCheaper
      { m.totals with supplyAssets := supplyAssets, supplyShares := supplyShares } :=
    Totals.noCheaper_of_bought hprice hassets (Amount.add_eq_ok.1 hshares)
  refine .bind (keepsFollowing_book (hm.trans (Market.follows_totals hbought))) fun _ => ?_
  refine Action.Attains.bind_keeps (follows_compute _) fun held hheld => ?_
  have hheld : held.toNat = (m.account lender).supplyShares.toNat + shares.toNat :=
    Amount.add_eq_ok.1 hheld
  have hadded : m.Follows (some lender)
      { m.setAccount lender { m.account lender with supplyShares := held } with
        totals := { m.totals with supplyAssets := supplyAssets, supplyShares := supplyShares } } :=
    Market.follows_setAccount (by change _ ≤ held.toNat; omega) hbought
  exact .bind (keepsFollowing_book (hm.trans hadded)) fun _ => .pure _

/-- A call that books an account without a word about deposits. -/
theorem keepsFollowing_bookAccount {who : Address} {a : Account} {totals : Totals}
    (hm : b.Draws (some who) params m) (ha : a.supplyShares = (m.account who).supplyShares)
    (hassets : totals.supplyAssets = m.totals.supplyAssets)
    (hshares : totals.supplyShares = m.totals.supplyShares) :
    KeepsFollowing (some who) b
      (book params { m.setAccount who a with totals := totals }) := by
  refine keepsFollowing_book (hm.trans (Market.follows_setAccount ?_ ?_))
  · rw [ha]
  · exact Totals.noCheaper_of_le (by rw [hassets]) hshares

theorem keepsFollowing_supplyCollateral (params : MarketParams) (who : Address)
    (amount : Amount) : KeepsFollowing (some who) b (supplyCollateral params who amount) := by
  refine .bind (.require _ trivial) fun _ => ?_
  refine (follows_market params).bind_keeps fun m hm => .bind (.read _) fun pool => ?_
  refine .bind (keepsFollowing_move _ _ _ _) fun _ => ?_
  exact .bind (keepsFollowing_compute _) fun collateral =>
    keepsFollowing_bookAccount hm rfl rfl rfl

theorem keepsFollowing_withdrawCollateral (params : MarketParams) (who : Address)
    (amount : Amount) (receiver : Address) :
    KeepsFollowing (some who) b (withdrawCollateral params who amount receiver) := by
  refine .bind (.require _ trivial) fun _ => .bind (keepsFollowing_accrue params) fun _ => ?_
  refine (follows_market params).bind_keeps fun m hm => .bind (.read _) fun price => ?_
  refine .bind (.require _ trivial) fun _ => ?_
  refine .bind (keepsFollowing_bookAccount hm rfl rfl rfl) fun _ => ?_
  refine .bind (keepsFollowing_compute _) fun healthy => .bind (.require _ trivial) fun _ => ?_
  exact .bind (.read _) fun pool => keepsFollowing_move _ _ _ _

theorem keepsFollowing_borrow (params : MarketParams) (who : Address) (assets : Amount)
    (receiver : Address) : KeepsFollowing (some who) b (borrow params who assets receiver) := by
  refine .bind (.require _ trivial) fun _ => .bind (keepsFollowing_accrue params) fun _ => ?_
  refine (follows_market params).bind_keeps fun m hm => .bind (.read _) fun price => ?_
  refine .bind (keepsFollowing_compute _) fun shares => ?_
  refine .bind (keepsFollowing_compute _) fun borrowAssets => ?_
  refine .bind (keepsFollowing_book (hm.trans (Market.follows_totals (.refl _)))) fun _ => ?_
  refine .bind (keepsFollowing_compute _) fun borrowShares => ?_
  refine .bind (keepsFollowing_book (hm.trans (Market.follows_totals (.refl _)))) fun _ => ?_
  refine .bind (keepsFollowing_compute _) fun owed => ?_
  refine .bind (keepsFollowing_bookAccount (hm.trans (Market.follows_totals (.refl _)))
    rfl rfl rfl) fun _ => ?_
  refine .bind (keepsFollowing_compute _) fun healthy => .bind (.require _ trivial) fun _ => ?_
  refine .bind (.require _ trivial) fun _ => .bind (.read _) fun pool => ?_
  exact .bind (keepsFollowing_move _ _ _ _) fun _ => .pure _

theorem keepsFollowing_settle {who : Address} {a : Account} {moved : Movement}
    (hm : b.Draws (some who) params m) (ha : a.supplyShares = (m.account who).supplyShares) :
    KeepsFollowing (some who) b (settle params (m.setAccount who a) moved) :=
  .bind (keepsFollowing_compute _) fun _ => keepsFollowing_bookAccount hm ha rfl rfl

theorem keepsFollowing_repay (params : MarketParams) (who : Address) (amount : RepayAmount) :
    KeepsFollowing (some who) b (repay params who amount) := by
  refine .bind (keepsFollowing_accrue params) fun _ => ?_
  refine (follows_market params).bind_keeps fun m hm => ?_
  refine .bind (keepsFollowing_compute _) fun moved => .bind (.require _ trivial) fun _ => ?_
  refine .bind (.require _ trivial) fun _ => .bind (.read _) fun pool => ?_
  refine .bind (keepsFollowing_move _ _ _ _) fun _ => ?_
  refine .bind (keepsFollowing_bookAccount hm rfl rfl rfl) fun _ => ?_
  exact .bind (keepsFollowing_settle hm rfl) fun _ => .pure _

theorem keepsFollowing_liquidate (params : MarketParams) (borrower : Address)
    (seized repaidShares : Amount) (liquidator : Address) :
    KeepsFollowing (some borrower) b
      (liquidate params borrower seized repaidShares liquidator) := by
  refine .bind (keepsFollowing_accrue params) fun _ => ?_
  refine (follows_market params).bind_keeps fun m hm => .bind (.read _) fun price => ?_
  refine .bind (keepsFollowing_compute _) fun healthy => .bind (.require _ trivial) fun _ => ?_
  refine .bind (keepsFollowing_compute _) fun moved => .bind (.require _ trivial) fun _ => ?_
  refine .bind (.require _ trivial) fun _ => .bind (.read _) fun pool => ?_
  refine .bind (keepsFollowing_move _ _ _ _) fun _ => ?_
  refine .bind (keepsFollowing_move _ _ _ _) fun _ => ?_
  refine .bind (keepsFollowing_bookAccount hm rfl rfl rfl) fun _ => ?_
  exact .bind (keepsFollowing_settle hm rfl) fun _ => .pure _

end Bank

/-- **Requests to the pool, gone through or not.** A market that a request does not open anew
follows from what it was, by calls on the account that the request writes. -/
theorem PoolRequest.follows {q : PoolRequest} {id : MarketId} {b b' : Bank}
    (hq : q.opens? ≠ some id) (h : q.perform.after b = some b') :
    Option.Rel (Market.Follows q.account?) (b.pool.markets.get? id)
      (b'.pool.markets.get? id) := by
  have hkeeps (hcall : Bank.KeepsFollowing q.account? b q.perform) :
      b.Follows q.account? b' := hcall.after (.refl _ b) h
  cases q with
  | createMarket params rate =>
    obtain rfl := Option.some.inj h
    have hother : id ≠ params.id := fun hid => hq (congrArg some hid.symm)
    change Option.Rel _ _ ((b.pool.markets.insert params.id _).get? id)
    rw [FiniteMap.get?_insert_of_ne _ hother]
    exact Bank.Follows.refl _ b id
  | setRate params rate => exact hkeeps (Bank.keepsFollowing_setRate params rate) id
  | setPrice oracle price => exact hkeeps (fun _ hb => hb) id
  | advance seconds =>
    refine hkeeps (fun c hc => ?_) id
    simp only [perform, Action.ends_bind, Action.ends_read, Action.ends_orAbort,
      Action.ends_modify]
    intro pool hpool
    obtain ⟨now, -, rfl⟩ := Option.map_eq_some_iff.1 hpool
    exact hc
  | accrue params => exact hkeeps (Bank.keepsFollowing_accrue params) id
  | supply params lender assets =>
    exact hkeeps (.bind (Bank.keepsFollowing_supply params lender assets) fun _ => .pure _) id
  | supplyCollateral params who amount =>
    exact hkeeps (Bank.keepsFollowing_supplyCollateral params who amount) id
  | withdrawCollateral params who amount receiver =>
    exact hkeeps (Bank.keepsFollowing_withdrawCollateral params who amount receiver) id
  | borrow params who assets receiver =>
    exact hkeeps (.bind (Bank.keepsFollowing_borrow params who assets receiver) fun _ => .pure _) id
  | repay params who amount =>
    exact hkeeps (.bind (Bank.keepsFollowing_repay params who amount) fun _ => .pure _) id
  | liquidate params borrower seized repaidShares liquidator =>
    exact hkeeps (.bind (Bank.keepsFollowing_liquidate params borrower seized repaidShares
      liquidator) fun _ => .pure _) id

end LeveredBasket.Lending

namespace LeveredBasket

open Lending (Bank Market MarketId PoolRequest)

/-! ## Requests to the chain -/

/-- **Requests to the chain, gone through or not.** A market that a request does not open anew
follows from what it was. -/
theorem ChainRequest.follows {r : ChainRequest} {id : MarketId} {c c' : Chain}
    (hr : r.opens? ≠ some id) (h : r.after c = some c') :
    Option.Rel (Market.Follows r.account?) (c.pool.markets.get? id)
      (c'.pool.markets.get? id) := by
  obtain ⟨q, rfl, hb⟩ | hpool := ChainRequest.after_bank h
  · exact q.follows hr hb
  · rw [hpool]
    exact Bank.Follows.refl _ c.toBank id

/-- **A market that is opened anew** has no shares and no assets, and nobody has anything in it. -/
theorem ChainRequest.after_opens {r : ChainRequest} {id : MarketId} {c c' : Chain}
    (hr : r.opens? = some id) (h : r.after c = some c') :
    ∃ m, c'.pool.markets.get? id = some m ∧ m.totals = .opened c.pool.now ∧
      ∀ z, m.account z = .empty := by
  cases r with
  | pool q =>
    cases q with
    | createMarket params rate =>
      obtain rfl : params.id = id := Option.some.inj hr
      obtain rfl := Option.some.inj h
      exact ⟨_, c.pool.markets.get?_insert_self _ _, rfl, fun _ => rfl⟩
    | _ => cases hr
  | _ => cases hr

namespace Chain

variable {P : ChainRequest → Prop} {c c' : Chain} {id : MarketId} {m : Market}

/-- No chain that comes about has more than a million shares to an asset of deposits. -/
theorem Moves.priced (h : Moves P c c') (hc : c.toBank.Priced) : c'.toBank.Priced := by
  apply Comes.keeps (I := fun d => d.toBank.Priced) h hc
  intro r d d' _ hd hafter id m' hm'
  by_cases hopens : r.opens? = some id
  · obtain ⟨m, hm, htotals, -⟩ := ChainRequest.after_opens hopens hafter
    obtain rfl := Option.some.inj (hm.symm.trans hm')
    rw [htotals]
    exact Nat.le_refl 0
  · have hrel := ChainRequest.follows hopens hafter
    rw [hm'] at hrel
    obtain ⟨m, hm, hfollows⟩ := Lending.exists_of_rel_some_right hrel
    exact hfollows.priced (hd id m hm)

/-- **Nobody's deposit shrinks** as long as the market is not opened anew. -/
theorem Moves.worth_le (h : Moves (fun r => r.opens? ≠ some id) c c')
    (hm : c.pool.markets.get? id = some m) :
    ∃ m', c'.pool.markets.get? id = some m' ∧ ∀ z, m.worth z ≤ m'.worth z := by
  apply Comes.keeps (I := fun d => ∃ m', d.pool.markets.get? id = some m' ∧
    ∀ z, m.worth z ≤ m'.worth z) h ⟨m, hm, fun _ => Nat.le_refl _⟩
  rintro r d d' hr ⟨m₁, hm₁, hle⟩ hafter
  have hrel := ChainRequest.follows hr hafter
  rw [hm₁] at hrel
  obtain ⟨m₂, hm₂, hfollows⟩ := Lending.exists_of_rel_some hrel
  exact ⟨m₂, hm₂, fun z => (hle z).trans (hfollows.worth_le z)⟩

end Chain

namespace Lending

/-- What a lender can claim is what the lender has in the market. -/
theorem Pool.suppliedAssets_eq_ok {p : Pool} {id : MarketId} {who : Address} {d : Amount}
    (h : p.suppliedAssets id who = .ok d) :
    ∃ m, p.markets.get? id = some m ∧ d.toNat = m.worth who := by
  unfold suppliedAssets totals account at h
  cases hm : p.markets.get? id with
  | none =>
    rw [hm] at h
    cases h
  | some m =>
    rw [hm] at h
    exact ⟨m, rfl, Totals.claim_eq_ok (Except.mapError_eq_ok.1 h)⟩

theorem Pool.worth_of_suppliedAssets {p : Pool} {id : MarketId} {who : Address} {d : Amount}
    {m : Market} (h : p.suppliedAssets id who = .ok d) (hm : p.markets.get? id = some m) :
    d.toNat = m.worth who := by
  obtain ⟨m', hm', hworth⟩ := suppliedAssets_eq_ok h
  obtain rfl := Option.some.inj (hm.symm.trans hm')
  exact hworth

end Lending

end LeveredBasket

namespace LeveredBasket.Leverage

open Lending (Bank Market MarketId)

/-- No desk opens a market. -/
theorem Errand.Serves.opens {k : Errand} {r : ChainRequest} (h : k.Serves r) : r.opens? = none := by
  cases h <;> rfl

/-- **Deposits are covered and never shrink.** In a world that can come about, every market has at
most a million deposit shares to an asset, and what all its lenders can claim, each rounded down, is
covered by its assets. Whatever is asked from there on, gone through or not, nobody can claim less
than before, as long as the market is not opened anew. A deposit that goes through adds to what the
lender could have claimed, once the interest due by then is in the books, at most what it is; where
none is due, the books are as they were. -/
theorem World.Reachable.deposits_covered {w : World} (hw : w.Reachable) :
    (∀ id m, w.chain.pool.markets.get? id = some m →
      m.totals.supplyShares.toNat ≤ 1000000 * m.totals.supplyAssets.toNat ∧
      m.worthOfAll ≤ m.totals.supplyAssets.toNat ∧
      ∀ who d, w.chain.pool.suppliedAssets id who = .ok d → d.toNat = m.worth who) ∧
    (∀ requests w' id who d d', (∀ r ∈ requests, r.opens? ≠ some id) →
      World.runs requests w = some w' → w.chain.pool.suppliedAssets id who = .ok d →
      w'.chain.pool.suppliedAssets id who = .ok d' → d.toNat ≤ d'.toNat) ∧
    ∀ params lender assets shares b,
      (Bank.supply params lender assets).run w.chain.toBank = .done shares b →
      ∃ accrued, (Bank.accrue params).run w.chain.toBank = .done () accrued ∧
        (∀ m, w.chain.pool.markets.get? params.id = some m →
          w.chain.pool.now ≤ m.totals.lastUpdate → accrued = w.chain.toBank) ∧
        ∀ d d', accrued.pool.suppliedAssets params.id lender = .ok d →
          b.pool.suppliedAssets params.id lender = .ok d' → d'.toNat ≤ d.toNat + assets.toNat := by
  have hbalanced := Lending.balanced_of_reachable hw
  refine ⟨fun id m hm => ⟨?_, (hbalanced id m hm).worthOfAll_le, fun who d hd => ?_⟩, ?_, ?_⟩
  · obtain ⟨pool, router, feeRecipient, hmoves⟩ := hw.moves
    refine hmoves.priced (fun id m hm => ?_) id m hm
    rw [Chain.create, Lending.Pool.create, FiniteMap.get?_empty] at hm
    cases hm
  · exact Lending.Pool.worth_of_suppliedAssets hd hm
  · intro requests w' id who d d' hopens hruns hd hd'
    obtain ⟨-, hmoves⟩ := World.runs_moves (P := fun r => r.opens? ≠ some id) hw.orderly
      (fun q hq => hopens _ hq) (fun _ _ _ _ _ _ q hq => by simp [hq.opens])
      (fun _ _ _ _ => trivial) hruns
    obtain ⟨m, hm, hworth⟩ := Lending.Pool.suppliedAssets_eq_ok hd
    obtain ⟨m', hm', hle⟩ := hmoves.worth_le hm
    rw [hworth, Lending.Pool.worth_of_suppliedAssets hd' hm']
    exact hle who
  · intro params lender assets shares b hsupply
    obtain ⟨m₀, m, m', t, hm₀, haccrued, -, -, -, hdeposited, rfl⟩ :=
      (Bank.supply_ends params lender assets _).done hsupply
    -- the interest that a deposit accrues first can be accrued by itself
    obtain ⟨_, accrued, haccrue, -⟩ :=
      Action.run_bind_eq_done.1 (Action.run_require_bind_eq_done.1 hsupply).2
    obtain ⟨m₁, m₂, hm₁, haccrued', rfl⟩ := (Bank.accrue_spec params _).done haccrue
    obtain rfl := Option.some.inj (hm₀.symm.trans hm₁)
    refine ⟨_, haccrue, fun m₃ hm₃ hsettled => ?_, fun d d' hd hd' => ?_⟩
    · obtain rfl := Option.some.inj (hm₀.symm.trans hm₃)
      rw [haccrued'.of_settled hsettled]
      exact Bank.booked_self hm₀
    · have hbefore : d.toNat = m₂.worth lender :=
        Lending.Pool.worth_of_suppliedAssets hd Bank.get?_booked_self
      have hafter : d'.toNat = m'.worth lender :=
        Lending.Pool.worth_of_suppliedAssets hd' Bank.get?_booked_self
      have hbooks := hbalanced params.id m₀ hm₀
      have hsame := hbooks.of_eq haccrued.accounts haccrued.borrowShares haccrued.supplyShares
      rw [hbefore, hafter, haccrued.worth_eq haccrued']
      exact hdeposited.worth_le hsame

open Deployment in
/-- The requests after which the levered basket owes the interest of a thousand seconds, a dollar,
and the lender has a dollar to deposit. -/
def earning : List Request :=
  levering ++ ([.pool (.setRate params (number 1_000_000_000_000)),
    .token (.mint usdc lender Amount.one), .pool (.advance (number 1_000))] :
      List ChainRequest).map .chain

open Deployment in
/-- A deposit of a single unit brings the interest with it that was due before. -/
theorem deposit_of_earning : ∃ w shares b accrued w' d e d',
    World.runs earning (start .usual) = some w ∧
    (Bank.supply params lender 1).run w.chain.toBank = .done shares b ∧
    (Bank.accrue params).run w.chain.toBank = .done () accrued ∧
    World.runs [.chain (.pool (.supply params lender 1))] w = some w' ∧
    w.chain.pool.suppliedAssets params.id lender = .ok d ∧
    accrued.pool.suppliedAssets params.id lender = .ok e ∧
    b.pool.suppliedAssets params.id lender = .ok d' ∧
    w'.chain.pool.suppliedAssets params.id lender = .ok d' ∧ d.toNat + 1 < d'.toNat := by
  have hsupplies : ((World.runs earning (start .usual)).bind fun w =>
      (w.chain.pool.suppliedAssets params.id lender).toOption.bind fun d =>
        (World.runs [.chain (.pool (.supply params lender 1))] w).bind fun w' =>
          (w'.chain.pool.suppliedAssets params.id lender).toOption.map fun d' =>
            decide (d.toNat + 1 < d'.toNat) &&
              (((Bank.supply params lender 1).run w.chain.toBank).isDoneWith fun _ b =>
                decide (b = w'.chain.toBank)) &&
              ((Bank.accrue params).run w.chain.toBank).isDoneWith fun _ accrued =>
                (accrued.pool.suppliedAssets params.id lender).toOption.isSome) = some true := by
    decide +kernel
  obtain ⟨w, hw, hsupplies⟩ := Option.bind_eq_some_iff.1 hsupplies
  obtain ⟨d, hd, hsupplies⟩ := Option.bind_eq_some_iff.1 hsupplies
  obtain ⟨w', hw', hsupplies⟩ := Option.bind_eq_some_iff.1 hsupplies
  obtain ⟨d', hd', hsupplies⟩ := Option.map_eq_some_iff.1 hsupplies
  simp only [Bool.and_eq_true, decide_eq_true_eq] at hsupplies
  obtain ⟨⟨hmore, hdone⟩, haccrues⟩ := hsupplies
  obtain ⟨shares, b, hsupply, hsame⟩ := Outcome.exists_of_isDoneWith hdone
  obtain rfl := of_decide_eq_true hsame
  obtain ⟨_, accrued, haccrue, hclaims⟩ := Outcome.exists_of_isDoneWith haccrues
  obtain ⟨e, he⟩ := Option.isSome_iff_exists.1 hclaims
  exact ⟨w, shares, _, accrued, w', d, e, d', hw, hsupply, haccrue, hw',
    Except.eq_ok_of_toOption hd, Except.eq_ok_of_toOption he, Except.eq_ok_of_toOption hd',
    Except.eq_ok_of_toOption hd', hmore⟩

open Deployment in
/-- So it is where the interest of a thousand seconds is due and the lender deposits one unit. -/
theorem World.deposits_covered_of_earning : ∃ w m shares b accrued w' d e d',
    World.runs earning (start .usual) = some w ∧
    w.chain.pool.markets.get? params.id = some m ∧ d.toNat = m.worth lender ∧
    m.totals.supplyShares.toNat ≤ 1000000 * m.totals.supplyAssets.toNat ∧
    m.worthOfAll ≤ m.totals.supplyAssets.toNat ∧
    World.runs [.chain (.pool (.supply params lender 1))] w = some w' ∧
    w.chain.pool.suppliedAssets params.id lender = .ok d ∧
    w'.chain.pool.suppliedAssets params.id lender = .ok d' ∧ d.toNat ≤ d'.toNat ∧
    (Bank.supply params lender 1).run w.chain.toBank = .done shares b ∧
    (Bank.accrue params).run w.chain.toBank = .done () accrued ∧
    accrued.pool.suppliedAssets params.id lender = .ok e ∧ d'.toNat ≤ e.toNat + 1 := by
  obtain ⟨w, shares, b, accrued, w', d, e, d', hw, hsupply, haccrue, hw', hd, he, hd', hd'', -⟩ :=
    deposit_of_earning
  have hreachable : w.Reachable := ⟨pool, router, feeRecipient, holder, owner, .usual, _, hw⟩
  obtain ⟨hcovered, hkept, hadded⟩ := World.Reachable.deposits_covered hreachable
  obtain ⟨m, hm, -⟩ := Lending.Pool.suppliedAssets_eq_ok hd
  obtain ⟨hprice, hall, hclaims⟩ := hcovered params.id m hm
  have hopens : ∀ r ∈ [Request.chain (.pool (.supply params lender 1))],
      r.opens? ≠ some params.id := by
    intro r hr
    rw [List.mem_singleton.1 hr]
    exact Option.some_ne_none _ |>.symm
  obtain ⟨accrued', haccrue', -, hbound⟩ := hadded params lender 1 shares b hsupply
  rw [haccrue] at haccrue'
  cases haccrue'
  exact ⟨w, m, shares, b, accrued, w', d, e, d', hw, hm, hclaims lender d hd, hprice, hall, hw', hd,
    hd'', hkept _ w' params.id lender d d' hopens hw' hd hd'', hsupply, haccrue, he,
    hbound e d' he hd'⟩

/-- Without the interest that is due, the bound would be wrong: a deposit may add to what the lender
could have claimed before the call more than it is. -/
theorem World.deposit_adds_interest : ¬∀ w : World, w.Reachable →
    ∀ params lender assets shares b d d',
      (Bank.supply params lender assets).run w.chain.toBank = .done shares b →
      w.chain.pool.suppliedAssets params.id lender = .ok d →
      b.pool.suppliedAssets params.id lender = .ok d' → d'.toNat ≤ d.toNat + assets.toNat := by
  intro hbound
  obtain ⟨w, shares, b, accrued, w', d, e, d', hw, hsupply, -, -, hd, -, hd', -, hmore⟩ :=
    deposit_of_earning
  have hle := hbound w ⟨_, _, _, _, _, _, _, hw⟩ _ _ _ _ _ _ _ hsupply hd hd'
  exact Nat.not_lt.2 hle hmore

end LeveredBasket.Leverage
