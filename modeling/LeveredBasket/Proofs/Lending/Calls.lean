/-
The steps that calls on the lending pool are made of.

A call reads a market, computes, moves tokens and books the market as it now
stands. `Bank.booked` is what a booking leaves; two bookings of one market are
the later one (`booked_booked`). With one rule for each kind of step, a statement
about a call becomes one about the markets that it books on the way.

Interest is the first step of most calls (`SimMarket::accrue`). `accrue_spec` says
all of it: debts and deposits grow by the same interest, and where the market is
up to date nothing happens. A refusal for want of room may leave the interest in
the debts alone.

Two banks that show the same of a market (`Bank.Agrees`) give it the same interest.
-/
import LeveredBasket.Lending.Pool
import LeveredBasket.Proofs.Token

set_option autoImplicit false

namespace LeveredBasket.Lending

namespace Market

/-- The interest on the debts from the last update to `now`: none if that is not later. -/
def interestAt (m : Market) (now : Word 64) : Nat :=
  m.totals.borrowAssets.toNat *
    (m.rate.toNat * (now.toNat - m.totals.lastUpdate.toNat)) / Amount.one.toNat

/-- A market that is up to date has no interest to come. -/
theorem interestAt_of_settled {m : Market} {now : Word 64} (h : now ≤ m.totals.lastUpdate) :
    m.interestAt now = 0 := by
  have hnone : now.toNat - m.totals.lastUpdate.toNat = 0 := Nat.sub_eq_zero_of_le h
  rw [interestAt, hnone, Nat.mul_zero, Nat.mul_zero, Nat.zero_div]

/-- **`m'` is `m` with interest up to `now`**: the same interest in both totals, and all else as it
was. -/
structure Accrued (now : Word 64) (m m' : Market) : Prop where
  params : m'.params = m.params
  accounts : m'.accounts = m.accounts
  rate : m'.rate = m.rate
  supplyShares : m'.totals.supplyShares = m.totals.supplyShares
  borrowShares : m'.totals.borrowShares = m.totals.borrowShares
  debts : m'.totals.borrowAssets.toNat = m.totals.borrowAssets.toNat + m.interestAt now
  deposits : m'.totals.supplyAssets.toNat = m.totals.supplyAssets.toNat + m.interestAt now
  /-- It is up to date now. -/
  settled : now ≤ m'.totals.lastUpdate
  /-- A market that is up to date does not change. -/
  of_settled : now ≤ m.totals.lastUpdate → m' = m

theorem Accrued.refl {now : Word 64} {m : Market} (h : now ≤ m.totals.lastUpdate) :
    Accrued now m m := by
  have hnone := interestAt_of_settled h
  exact ⟨rfl, rfl, rfl, rfl, rfl, by rw [hnone]; rfl, by rw [hnone]; rfl, h, fun _ => rfl⟩

theorem Accrued.interest {now : Word 64} {m m' : Market} (h : Accrued now m m') :
    ∃ i : Nat, m'.totals.borrowAssets.toNat = m.totals.borrowAssets.toNat + i ∧
      m'.totals.supplyAssets.toNat = m.totals.supplyAssets.toNat + i :=
  ⟨_, h.debts, h.deposits⟩

theorem Accrued.account {now : Word 64} {m m' : Market} (h : Accrued now m m') (who : Address) :
    m'.account who = m.account who := by
  unfold Market.account
  rw [h.accounts]

/-- **`m'` is `m` after a deal with one account**: of the accounts at most that one is written, and
neither the parameters nor what interest depends on. -/
structure Dealt (who : Address) (m m' : Market) : Prop where
  params : m'.params = m.params
  rate : m'.rate = m.rate
  lastUpdate : m'.totals.lastUpdate = m.totals.lastUpdate
  others : ∀ x, x ≠ who → m'.account x = m.account x

theorem account_setAccount (m : Market) (who x : Address) (a : Account) :
    (m.setAccount who a).account x = if x = who then a else m.account x :=
  m.accounts.getD_insert who x a .empty

/-- To write an account and totals of the same second is a deal with that account. -/
theorem dealt_setAccount (m : Market) (who : Address) (a : Account) {totals : Totals}
    (h : totals.lastUpdate = m.totals.lastUpdate) :
    m.Dealt who { m.setAccount who a with totals := totals } := by
  refine ⟨rfl, rfl, h, fun x hx => ?_⟩
  have hother := m.account_setAccount who x a
  rw [if_neg hx] at hother
  exact hother

/-- What all accounts have together, of what `part` is of one. -/
def held (m : Market) (part : Account → Amount) : Nat := m.accounts.total fun _ a => (part a).toNat

/-- Writing one account changes what all have by what that account has more or less. -/
theorem held_setAccount (m : Market) (part : Account → Amount) (hpart : (part .empty).toNat = 0)
    (who : Address) (a : Account) :
    (m.setAccount who a).held part + (part (m.account who)).toNat =
      m.held part + (part a).toNat :=
  m.accounts.total_insert_getD (fun _ a => (part a).toNat) who a hpart

/-- No account has more than all accounts have. -/
theorem le_held (m : Market) (part : Account → Amount) (hpart : (part .empty).toNat = 0)
    (who : Address) : (part (m.account who)).toNat ≤ m.held part :=
  m.accounts.le_total_getD (fun _ a => (part a).toNat) who hpart

theorem borrowLimit_defined (m : Market) (collateral price : Amount) :
    Defined (m.borrowLimit collateral price) :=
  .bind (Amount.mulDivDown_defined _ _ (by decide)) fun _ _ => Amount.preciseMul_defined _ _

/-- Whether an account is healthy can be told unless something does not fit. -/
theorem isHealthy_defined (m : Market) (who : Address) (price : Amount) :
    Defined (m.isHealthy who price) := by
  unfold isHealthy
  dsimp only
  split
  · exact .ok _
  · refine .bind (Share.toAssets_defined _ _ _ _) fun debt _ => ?_
    exact .bind (m.borrowLimit_defined _ _) fun limit _ => .ok _

end Market

namespace Bank

variable {b : Bank} {params : MarketParams} {m m' : Market}

/-! ## Bookings -/

/-- The bank after a market has been booked. -/
def booked (b : Bank) (params : MarketParams) (m : Market) : Bank :=
  { b with pool := { b.pool with markets := b.pool.markets.insert params.id m } }

@[simp]
theorem booked_tokens : (b.booked params m).tokens = b.tokens := rfl

@[simp]
theorem get?_booked_self : (b.booked params m).pool.markets.get? params.id = some m :=
  b.pool.markets.get?_insert_self params.id m

theorem get?_booked (id : MarketId) : (b.booked params m).pool.markets.get? id =
    if id = params.id then some m else b.pool.markets.get? id :=
  b.pool.markets.get?_insert params.id id m

/-- Of two bookings of one market the later counts. -/
@[simp]
theorem booked_booked : (b.booked params m).booked params m' = b.booked params m' := by
  simp [booked]

/-- Booking a market as it is changes nothing. -/
theorem booked_self (h : b.pool.markets.get? params.id = some m) : b.booked params m = b := by
  simp [booked, FiniteMap.insert_of_get? h]

/-! ## Rules -/

section Rules

variable {α : Type}

@[simp]
theorem ends_compute {x : Except MathError α} {Q : α → Bank → Prop}
    {E : LendingError → Bank → Prop} :
    ((compute x).run b).Ends Q E ↔
      (∀ a, x = .ok a → Q a b) ∧ (∀ e, x = .error e → E (.math e) b) := by
  cases x <;> simp [compute, Except.mapError]

@[simp]
theorem ends_market {Q : Market → Bank → Prop} {E : LendingError → Bank → Prop} :
    ((market params).run b).Ends Q E ↔
      (∀ m, b.pool.markets.get? params.id = some m → Q m b) ∧
        (b.pool.markets.get? params.id = none → E (.marketNotCreated params.id) b) := by
  simp [market]

@[simp]
theorem ends_book {Q : Unit → Bank → Prop} {E : LendingError → Bank → Prop} :
    ((book params m).run b).Ends Q E ↔ Q () (b.booked params m) := Iff.rfl

/-- Tokens moved leave the pool alone; a refused move leaves everything alone. -/
theorem move_spec (asset sender recipient : Address) (amount : Amount) (b : Bank) :
    ((move asset sender recipient amount).run b).Ends
      (fun _ b' => ∃ t, TokenBook.Transferred asset sender recipient amount b.tokens t ∧
        b' = { b with tokens := t })
      fun e b' => (∃ reason, e = .transfer reason) ∧ b' = b ∧
        (b.tokens.balance asset sender).toNat < amount.toNat := by
  simp only [move, Action.ends_mapError, Action.ends_within]
  refine (TokenBook.transfer_spec asset sender recipient amount b.tokens).imp
    (fun _ t h => ⟨t, h, rfl⟩) ?_
  rintro e t ⟨rfl, hshort⟩
  exact ⟨⟨_, rfl⟩, rfl, hshort⟩

end Rules

/-! ## Interest (`SimMarket::accrue`) -/

/-- What there is to accrue since the last update, in seconds. -/
theorem truncatedSub_eq_zero {bits : Nat} {x y : Word bits} : x.truncatedSub y = 0 ↔ x ≤ y := by
  rw [Word.ext_iff]
  exact Nat.sub_eq_zero_iff_le

/-- A market that is up to date has nothing to accrue. -/
theorem accrue_settled (hm : b.pool.markets.get? params.id = some m)
    (hsettled : b.pool.now ≤ m.totals.lastUpdate) : (accrue params).run b = .done () b := by
  have hnone : b.pool.now.truncatedSub m.totals.lastUpdate = 0 := truncatedSub_eq_zero.2 hsettled
  simp [accrue, market, Action.run_bind, hm, hnone]

/-- **Interest.** Where `accrue` goes through, the market is booked with interest up to now, and
dated now if there was any time to accrue for; where it is refused, something does not fit and at
most the debts have grown. -/
theorem accrue_dates (params : MarketParams) (b : Bank) :
    ((accrue params).run b).Ends
      (fun _ b' => ∃ m m', b.pool.markets.get? params.id = some m ∧
        m.Accrued b.pool.now m' ∧ (m' = m ∨ m'.totals.lastUpdate = b.pool.now) ∧
        b' = b.booked params m')
      fun e b' => AtMostOverflow .math e ∧ (∀ reason, e ≠ .transfer reason) ∧
        (b' = b ∨ ∃ (m : Market) (debt : Amount), b.pool.markets.get? params.id = some m ∧
          m.totals.borrowAssets.toNat ≤ debt.toNat ∧
          b' = b.booked params { m with totals := { m.totals with borrowAssets := debt } }) := by
  have hoverflow : AtMostOverflow LendingError.math (.math .overflow) := by
    rintro _ ⟨⟩
    rfl
  simp only [accrue, Action.ends_bind, Action.ends_read, Action.ends_ite, ends_market,
    ends_compute, ends_book, Action.run_pure, Outcome.ends_done]
  refine ⟨fun m hm => ⟨fun h => ?_, fun h => ?_⟩,
    fun _ => ⟨by simp, by simp, .inl trivial⟩⟩
  · exact ⟨m, m, hm, .refl (truncatedSub_eq_zero.1 h), .inl rfl, (booked_self hm).symm⟩
  · have hlate : ¬b.pool.now ≤ m.totals.lastUpdate := fun hle => h (truncatedSub_eq_zero.2 hle)
    -- one case for each computation that may be refused, the last of them first
    refine ⟨fun growth hgrowth => ⟨fun interest hinterest => ⟨fun debt hdebt =>
      ⟨fun deposits hdeposits => ?_, fun e he => ?_⟩, fun e he => ?_⟩, fun e he => ?_⟩,
      fun e he => ?_⟩
    · rw [Amount.add_eq_ok] at hdebt hdeposits
      have hexact : interest.toNat = m.interestAt b.pool.now := by
        rw [(Amount.mulDivDown_eq_ok.1 hinterest).2, overflowing_ofNat?_eq_ok.1 hgrowth]
        rfl
      rw [hexact] at hdebt hdeposits
      refine ⟨m, _, hm, ?_, .inr rfl, booked_booked⟩
      exact ⟨rfl, rfl, rfl, rfl, rfl, hdebt, hdeposits, Nat.le_refl _, fun hle => absurd hle hlate⟩
    · -- the deposits have no room for the interest that the debts have taken up already
      obtain rfl := Amount.add_eq_error he
      refine ⟨hoverflow, by simp, .inr ⟨m, debt, hm, ?_, rfl⟩⟩
      have := Amount.add_eq_ok.1 hdebt
      omega
    · obtain rfl := Amount.add_eq_error he
      exact ⟨hoverflow, by simp, .inl trivial⟩
    · obtain rfl := Amount.preciseMul_defined _ _ e he
      exact ⟨hoverflow, by simp, .inl trivial⟩
    · obtain rfl := overflowing_eq_error he
      exact ⟨hoverflow, by simp, .inl trivial⟩

/-- What `accrue` comes to, whenever the market was up to date before. -/
theorem accrue_spec (params : MarketParams) (b : Bank) :
    ((accrue params).run b).Ends
      (fun _ b' => ∃ m m', b.pool.markets.get? params.id = some m ∧
        m.Accrued b.pool.now m' ∧ b' = b.booked params m')
      fun e b' => AtMostOverflow .math e ∧ (∀ reason, e ≠ .transfer reason) ∧
        (b' = b ∨ ∃ (m : Market) (debt : Amount), b.pool.markets.get? params.id = some m ∧
          m.totals.borrowAssets.toNat ≤ debt.toNat ∧
          b' = b.booked params { m with totals := { m.totals with borrowAssets := debt } }) := by
  refine (accrue_dates params b).imp ?_ fun _ _ h => h
  rintro _ b' ⟨m, m', hm, haccrued, -, hb'⟩
  exact ⟨m, m', hm, haccrued, hb'⟩

/-! ## Two banks side by side -/

/-- **Banks that `R` relates show the same of one market**, and the same time, and still do once the
market is booked in both. -/
structure Agrees (params : MarketParams) (R : Bank → Bank → Prop) : Prop where
  market : ∀ {b b'}, R b b' →
    b'.pool.markets.get? params.id = b.pool.markets.get? params.id
  now : ∀ {b b'}, R b b' → b'.pool.now = b.pool.now
  booked : ∀ {b b'} m, R b b' → R (b.booked params m) (b'.booked params m)

section Agrees

variable {R : Bank → Bank → Prop}

theorem Agrees.relates_market (h : Agrees params R) : (Bank.market params).Relates R R :=
  .bind (.read fun _ _ hb => (h.market hb).symm) fun _ => .orRefuse _ _

theorem Agrees.relates_book (h : Agrees params R) (m : Market) : (book params m).Relates R R :=
  .modify fun _ _ hb => h.booked m hb

/-- What interest comes to is a matter of what is shown of the market. -/
theorem Agrees.relates_accrue (h : Agrees params R) : (accrue params).Relates R R := by
  -- the market and the clock are all that is read, and the rest computes with them
  refine .bind h.relates_market fun m => .bind (.read fun _ _ hb => (h.now hb).symm) fun now => ?_
  refine .ite (.pure ()) (.bind (.ofExcept _) fun growth => .bind (.ofExcept _) fun interest => ?_)
  exact .bind (.ofExcept _) fun debts => .bind (h.relates_book _) fun _ =>
    .bind (.ofExcept _) fun deposits => h.relates_book _

end Agrees

end Bank

end LeveredBasket.Lending
