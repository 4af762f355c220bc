/-
Accruing (`SimMarket::accrue`) often neither waives nor misplaces interest.

Anyone may have a market accrue at any time, so anyone may cut the time between two
calls into spans of their own (`accrueEach`). Each accrual rounds its interest down, and
each pays interest on the interest of those before. The first makes the total smaller than
one accrual over all of the time would, the second makes it larger, and how much larger
has no bound; but it is smaller by less than one unit for each cut
(`Accrued.compounded_cons`), since a sum rounds down to at most one more than its parts.

Whatever the cuts, debts and deposits grow by the same, and shares stay as they are.
-/
import LeveredBasket.Proofs.Leverage.Worlds
import LeveredBasket.Proofs.Lending.Calls

set_option autoImplicit false

namespace LeveredBasket.Lending

/-- Lets each of the spans go by, and accrues at its end. -/
def accrueEach (params : MarketParams) : List (Word 64) → Bank.Call Unit
  | [] => pure ()
  | span :: spans => do
    (PoolRequest.advance span).perform
    (PoolRequest.accrue params).perform
    accrueEach params spans

/-! ## What accruals come to (`SimMarket::accrue`) -/

namespace Market

/-- The interest of so many seconds on the debts as they are, rounded down once. -/
def interestOver (m : Market) (seconds : Nat) : Nat :=
  m.totals.borrowAssets.toNat * (m.rate.toNat * seconds) / Amount.one.toNat

/-- **`m'` is `m` after so many accruals in so many seconds.** -/
structure Compounded (accruals seconds : Nat) (m m' : Market) : Prop where
  params : m'.params = m.params
  accounts : m'.accounts = m.accounts
  rate : m'.rate = m.rate
  supplyShares : m'.totals.supplyShares = m.totals.supplyShares
  borrowShares : m'.totals.borrowShares = m.totals.borrowShares
  /-- Each accrual but one may waive up to a unit. -/
  debts : m.totals.borrowAssets.toNat + m.interestOver seconds ≤
    m'.totals.borrowAssets.toNat + (accruals - 1)
  /-- What is not lent out stays the same. -/
  surplus : (m'.totals.supplyAssets.toNat : Int) - m'.totals.borrowAssets.toNat =
    m.totals.supplyAssets.toNat - m.totals.borrowAssets.toNat

variable {m m₁ m' : Market} {now : Word 64} {accruals first rest : Nat}

theorem interestAt_eq (h : m.totals.lastUpdate.toNat + first = now.toNat) :
    m.interestAt now = m.interestOver first := by
  have hfirst : now.toNat - m.totals.lastUpdate.toNat = first := by omega
  rw [interestAt, hfirst, interestOver]

/-- A sum rounds down to at most one more than its parts do. -/
theorem interestOver_add (m : Market) (first rest : Nat) :
    m.interestOver (first + rest) ≤ m.interestOver first + m.interestOver rest + 1 := by
  unfold interestOver
  rw [Nat.mul_add, Nat.mul_add, Nat.add_div (by decide : 0 < Amount.one.toNat)]
  split <;> omega

/-- More debt at the same rate bears no less interest. -/
theorem interestOver_mono (hrate : m₁.rate = m.rate)
    (hdebts : m.totals.borrowAssets.toNat ≤ m₁.totals.borrowAssets.toNat) (seconds : Nat) :
    m.interestOver seconds ≤ m₁.interestOver seconds := by
  unfold interestOver
  rw [hrate]
  exact Nat.div_le_div_right (Nat.mul_le_mul_right _ hdebts)

theorem Accrued.surplus (h : m.Accrued now m') :
    (m'.totals.supplyAssets.toNat : Int) - m'.totals.borrowAssets.toNat =
      m.totals.supplyAssets.toNat - m.totals.borrowAssets.toNat := by
  have hdebts := h.debts
  have hdeposits := h.deposits
  omega

/-- A single accrual is exact. -/
theorem Accrued.compounded (h : m.Accrued now m')
    (hspan : m.totals.lastUpdate.toNat + first = now.toNat) : Compounded 1 first m m' := by
  refine ⟨h.params, h.accounts, h.rate, h.supplyShares, h.borrowShares, ?_, h.surplus⟩
  rw [h.debts, interestAt_eq hspan, Nat.sub_self, Nat.add_zero]

/-- **One more accrual in front** waives at most one unit more: the others compound on no less than
the debts of before. -/
theorem Accrued.compounded_cons (h : m.Accrued now m₁)
    (hspan : m.totals.lastUpdate.toNat + first = now.toNat) (hpos : 0 < accruals)
    (hrest : Compounded accruals rest m₁ m') : Compounded (accruals + 1) (first + rest) m m' := by
  refine ⟨hrest.params.trans h.params, hrest.accounts.trans h.accounts, hrest.rate.trans h.rate,
    hrest.supplyShares.trans h.supplyShares, hrest.borrowShares.trans h.borrowShares, ?_,
    hrest.surplus.trans h.surplus⟩
  have hfirst : m₁.totals.borrowAssets.toNat =
      m.totals.borrowAssets.toNat + m.interestOver first := by
    rw [h.debts, interestAt_eq hspan]
  have hgrown : m.interestOver rest ≤ m₁.interestOver rest :=
    interestOver_mono h.rate (by omega) rest
  calc m.totals.borrowAssets.toNat + m.interestOver (first + rest)
      ≤ m.totals.borrowAssets.toNat + (m.interestOver first + m.interestOver rest + 1) :=
        Nat.add_le_add_left (m.interestOver_add first rest) _
    _ ≤ m₁.totals.borrowAssets.toNat + m₁.interestOver rest + 1 := by omega
    _ ≤ m'.totals.borrowAssets.toNat + (accruals - 1) + 1 := Nat.add_le_add_right hrest.debts 1
    _ = m'.totals.borrowAssets.toNat + (accruals + 1 - 1) := by omega

end Market

/-! ## What the calls come to -/

namespace Bank

variable {b b₁ b' : Bank} {params : MarketParams} {m : Market}

/-- The bank at another time. -/
def clockedAt (b : Bank) (now : Word 64) : Bank := { b with pool := { b.pool with now := now } }

theorem advance_ends (seconds : Word 64) (b : Bank) :
    ((PoolRequest.advance seconds).perform.run b).Ends
      (fun _ b' => ∃ now : Word 64, now.toNat = b.pool.now.toNat + seconds.toNat ∧
        b' = b.clockedAt now)
      fun _ _ => False := by
  simp only [PoolRequest.perform, Action.ends_bind, Action.ends_read, Action.ends_orAbort,
    Action.ends_modify, Pool.advance?, Option.map_eq_some_iff]
  rintro _ ⟨now, hnow, rfl⟩
  exact ⟨now, Word.ofNat?_eq_some.1 hnow, rfl⟩

/-- A span goes by and interest is accrued: the market is up to date again, at the later time. -/
theorem accrual_ends {now : Word 64} {span : Nat}
    (hm : b.pool.markets.get? params.id = some m) (hdate : m.totals.lastUpdate = b.pool.now)
    (hnow : now.toNat = b.pool.now.toNat + span)
    (hrun : (accrue params).run (b.clockedAt now) = .done () b₁) :
    ∃ m₁, m.Accrued now m₁ ∧ m₁.totals.lastUpdate = now ∧
      b₁ = (b.clockedAt now).booked params m₁ := by
  obtain ⟨m₀, m₁, hm₀, haccrued, hdated, hb₁⟩ := (accrue_dates params _).done hrun
  obtain rfl : m = m₀ := Option.some.inj (hm.symm.trans hm₀)
  refine ⟨m₁, haccrued, ?_, hb₁⟩
  rcases hdated with rfl | hdated
  · -- no time has gone by
    have hle : now.toNat ≤ m₁.totals.lastUpdate.toNat := haccrued.settled
    rw [hdate] at hle ⊢
    exact Word.ext (by omega)
  · exact hdated

/-- **Accruing often neither waives nor misplaces interest.** Let a market be up to date, and let
accruals cut the time that follows into spans, with no other call in between. Then its debts are at
least what one accrual over all of that time would make them, less one unit for each cut; what is
not lent out, the shares and all accounts are as they were; the market is dated now, and to accrue
once more changes nothing. -/
theorem accrueEach_compounds {spans : List (Word 64)}
    (hm : b.pool.markets.get? params.id = some m) (hdate : m.totals.lastUpdate = b.pool.now)
    (hspans : spans ≠ []) (hrun : (accrueEach params spans).run b = .done () b') :
    ∃ m' now, b' = (b.clockedAt now).booked params m' ∧
      now.toNat = b.pool.now.toNat + (spans.map Word.toNat).sum ∧
      m.Compounded spans.length (spans.map Word.toNat).sum m' ∧ m'.totals.lastUpdate = now ∧
      (accrue params).run b' = .done () b' := by
  induction spans generalizing b m with
  | nil => exact absurd rfl hspans
  | cons span spans ih =>
    obtain ⟨_, _, hadvance, hrun⟩ := Action.run_bind_eq_done.1 hrun
    obtain ⟨now, hnow, rfl⟩ := (advance_ends span b).done hadvance
    obtain ⟨_, _, haccrue, hrest⟩ := Action.run_bind_eq_done.1 hrun
    obtain ⟨m₁, haccrued, hdated, rfl⟩ := accrual_ends hm hdate hnow haccrue
    have hspan : m.totals.lastUpdate.toNat + span.toNat = now.toNat := by rw [hdate, hnow]
    -- the hypothesis is about one accrual at least, so the last one stands by itself
    by_cases hlast : spans = []
    · subst hlast
      cases hrest
      refine ⟨m₁, now, rfl, by simpa using hnow, ?_, hdated, ?_⟩
      · simpa using haccrued.compounded hspan
      · exact accrue_settled get?_booked_self haccrued.settled
    · obtain ⟨m', later, hb', hlater, hcompounded, hdated', hagain⟩ :=
        ih get?_booked_self hdated hlast hrest
      refine ⟨m', later, ?_, ?_, ?_, hdated', hagain⟩
      · rw [hb']
        simp [clockedAt, booked]
      · rw [hlater, List.map_cons, List.sum_cons, ← Nat.add_assoc, ← hnow]
        rfl
      · exact haccrued.compounded_cons hspan (List.length_pos_of_ne_nil hlast) hcompounded

end Bank

open Deployment in
/-- A bank whose market is owed a single unit, at half a unit a second. -/
def lendingOne : Bank :=
  ⟨.empty, { Pool.create pool with
    markets := (FiniteMap.empty).insert params.id
      ⟨params, ⟨1, 1, 1, 1, 0, 0⟩, .empty, number 500_000_000_000_000_000⟩ }⟩

open Deployment in
/-- The bound is met: of two seconds cut in two, each waives the half of a unit that it is due,
while one accrual over both would have charged a unit. -/
theorem accrueEach_compounds_of_lendingOne : ∃ m m' b' now,
    lendingOne.pool.markets.get? params.id = some m ∧
    m.totals.lastUpdate = lendingOne.pool.now ∧ ([1, 1] : List (Word 64)) ≠ [] ∧
    (accrueEach params [1, 1]).run lendingOne = .done () b' ∧
    b' = (lendingOne.clockedAt now).booked params m' ∧ m.Compounded 2 2 m' ∧
    m'.totals.lastUpdate = now ∧ (Bank.accrue params).run b' = .done () b' ∧
    m.interestOver 2 = 1 ∧ m'.totals.borrowAssets = m.totals.borrowAssets := by
  have hruns : ((accrueEach params [1, 1]).run lendingOne).isDoneWith (fun _ b' =>
      (lendingOne.pool.markets.get? params.id).any fun m =>
        (b'.pool.markets.get? params.id).any fun m' =>
          m.totals.lastUpdate = lendingOne.pool.now && m.interestOver 2 = 1 &&
            m'.totals.borrowAssets = m.totals.borrowAssets) = true := by
    decide +kernel
  obtain ⟨_, b', hrun, hends⟩ := Outcome.exists_of_isDoneWith hruns
  obtain ⟨m, hm, hends⟩ := (Option.any_eq_true _ _).1 hends
  obtain ⟨m₁, hm₁, hends⟩ := (Option.any_eq_true _ _).1 hends
  simp only [Bool.and_eq_true, decide_eq_true_eq] at hends
  obtain ⟨⟨hdate, hone⟩, hsame⟩ := hends
  obtain ⟨m', now, hb', -, hcompounded, hdated, hagain⟩ :=
    Bank.accrueEach_compounds hm hdate (List.cons_ne_nil 1 [1]) hrun
  have hm' : m₁ = m' := by
    rw [hb', Bank.get?_booked_self] at hm₁
    exact (Option.some.inj hm₁).symm
  subst hm'
  exact ⟨m, m₁, b', now, hm, hdate, List.cons_ne_nil 1 [1], hrun, hb', hcompounded, hdated, hagain,
    hone, hsame⟩

end LeveredBasket.Lending
