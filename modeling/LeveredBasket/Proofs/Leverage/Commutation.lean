/-
The order of synchronizations does not matter.

Two synchronizations (`LeverageModule::sync`) share the books of a market, which
accruing changes, and one that is refused takes its interest back. What each of
them looks at is little: its basket, the tokens, the clock, and one market, of
which it only uses what interest makes of it. Run side by side on a chain and on
one where another basket has been synchronized first, it answers the same
(`Operation.alike_sync`).

What it writes is a market with its interest and a basket with its units
(`Refresh`). Two of these commute, because interest up to now is the same whoever
accrues it (`Refresh.apply_comm`). From both it follows that synchronizations of two
baskets commute, the refused ones included (`Desk.Syncs.diamond`), and then, by
induction on the permutation, that any two orders agree
(`World.Reachable.syncs_commute`).
-/
import LeveredBasket.Proofs.Leverage.Idempotence
import LeveredBasket.Proofs.Leverage.Chronicle

set_option autoImplicit false

namespace LeveredBasket

/-! ## Interest -/

namespace Lending

namespace Bank

variable {params params' : MarketParams} {b b' : Bank}

/-- **Two banks show the same of one market**: its books, the clock, and all tokens. -/
structure SameAt (id : MarketId) (b b' : Bank) : Prop where
  tokens : b'.tokens = b.tokens
  now : b'.pool.now = b.pool.now
  market : b'.pool.markets.get? id = b.pool.markets.get? id

theorem agrees_sameAt (params : MarketParams) : Agrees params (SameAt params.id) :=
  ⟨fun h => h.market, fun h => h.now,
    fun _ h => ⟨h.tokens, h.now, get?_booked_self.trans get?_booked_self.symm⟩⟩

/-- Interest is a matter of the number of a market, not of its parameters. -/
theorem accrue_congr (h : params.id = params'.id) : accrue params = accrue params' := by
  unfold accrue market book
  rw [h]

/-- **The second bank may have the interest of a market already**, and shows the same of it
otherwise. -/
structure Ahead (params : MarketParams) (b b' : Bank) : Prop where
  tokens : b'.tokens = b.tokens
  now : b'.pool.now = b.pool.now
  market : b'.pool.markets.get? params.id = b.pool.markets.get? params.id ∨
    ∃ m, (accrue params).run b = .done () (b.booked params m) ∧
      b.pool.now ≤ m.totals.lastUpdate ∧ b'.pool.markets.get? params.id = some m

/-- Once interest has been accrued, they show the same. -/
theorem relates_accrue_ahead (params : MarketParams) :
    (accrue params).Relates (Ahead params) (SameAt params.id) := by
  intro b b' h
  rcases h.market with hsame | ⟨m, hrun, hsettled, hm⟩
  · exact (agrees_sameAt params).relates_accrue b b' ⟨h.tokens, h.now, hsame⟩
  · rw [hrun, accrue_settled hm (h.now ▸ hsettled)]
    exact .done ⟨h.tokens, h.now, hm.trans get?_booked_self.symm⟩

end Bank

end Lending

/-! ## What a synchronization looks at -/

namespace Chain

open Lending (Bank)

variable {c c' : Chain} {address : Address} {B B' : Bank → Bank → Prop} {ε α : Type}

/-- **Two chains show the same of a basket**, and their banks are as `B` says. -/
structure Shows (address : Address) (B : Bank → Bank → Prop) (c c' : Chain) : Prop where
  bank : B c.toBank c'.toBank
  basket : c'.baskets.get? address = c.baskets.get? address

theorem Shows.setBasket (h : c.Shows address B c') (b : Basket) :
    (c.setBasket address b).Shows address B (c'.setBasket address b) := by
  refine ⟨h.bank, ?_⟩
  rw [get?_setBasket, get?_setBasket, if_pos rfl, if_pos rfl]

theorem relates_onBank {x : Action Bank ε α} (hx : x.Relates B B') :
    (onBank x).Relates (Shows address B) (Shows address B') :=
  .within hx (fun _ _ h => h.bank) fun _ _ _ _ h hb => ⟨hb, h.basket⟩

theorem relates_theBasket :
    (theBasket address).Relates (Shows address B) (Shows address B) := by
  intro c c' h
  have hbasket : c'.basket address = c.basket address := by
    rw [Chain.basket, Chain.basket, h.basket]
  refine Action.alike_of_except (v := c.basket address) rfl ?_ fun _ _ => h
  change (Action.ofExcept (c'.basket address)).run c' = _
  rw [hbasket]

theorem relates_writePosition (p : Position) :
    (writePosition address p).Relates (Shows address B) (Shows address B) := by
  refine .bind (.require _ _) fun _ => .bind relates_theBasket fun b => .ite (.pure _) ?_
  exact .bind (.modify fun _ _ h => h.setBasket _) fun _ => .pure _

end Chain

namespace Leverage

open Lending (Bank Market MarketParams MarketId)

/-- Balances are a matter of the tokens and of one market. -/
theorem Record.balances_congr {r : Record} {c c' : Chain} (hmarket : r.market = r.params.id)
    (h : c.toBank.SameAt r.params.id c'.toBank) (basket : Address) :
    r.balances c' basket = r.balances c basket := by
  have htokens : c'.tokens = c.tokens := h.tokens
  have hm : c'.pool.markets.get? r.params.id = c.pool.markets.get? r.params.id := h.market
  rw [balances, balances, Lending.Pool.account, Lending.Pool.account, Lending.Pool.totals,
    Lending.Pool.totals, hmarket, htokens, hm]

namespace Operation

variable {d : Desk} {basket : Address} {r : Record} {B B' : Bank → Bank → Prop} {ε α : Type}

/-- Two sessions show the same of a basket if their chains do. -/
abbrev Shows (basket : Address) (B : Bank → Bank → Prop) (s t : Session) : Prop :=
  s.chain.Shows basket B t.chain

theorem relates_onChain {refusal : ε → LeverageError} {x : Action Chain ε α}
    (hx : x.Relates (Chain.Shows basket B) (Chain.Shows basket B')) :
    (onChain refusal x).Relates (Shows basket B) (Shows basket B') :=
  .mapError (.within hx (fun _ _ h => h) fun _ _ _ _ _ h => h)

theorem relates_compute (x : Except MathError α) :
    (compute x).Relates (Shows basket B) (Shows basket B) := .ofExcept _

theorem relates_balancesOf (hmarket : r.market = r.params.id) :
    (balancesOf r basket).Relates (Shows basket (Bank.SameAt r.params.id))
      (Shows basket (Bank.SameAt r.params.id)) := by
  intro s t h
  refine Action.alike_of_except (v := r.balances s.chain basket) rfl ?_ fun _ _ => h
  change (Action.ofExcept (r.balances t.chain basket)).run t = _
  rw [Record.balances_congr hmarket h.bank]

theorem relates_writeExternal (component : Address) (unit : PositionUnit) :
    (writeExternal d basket component unit).Relates (Shows basket B) (Shows basket B) :=
  .bind (relates_onChain (Chain.relates_writePosition _)) fun _ => .pure _

theorem relates_writePositions (hmarket : r.market = r.params.id) (supply : Amount) :
    (writePositions d basket r supply).Relates (Shows basket (Bank.SameAt r.params.id))
      (Shows basket (Bank.SameAt r.params.id)) := by
  have hrest (bal : Balances) (unit : PositionUnit) : (do
      let borrowUnit ← writeDebt d basket r bal.borrow supply
      pure (⟨supply, unit, borrowUnit, bal.collateral, bal.borrow⟩ : SyncReport) :
        Operation SyncReport).Relates (Shows basket (Bank.SameAt r.params.id))
      (Shows basket (Bank.SameAt r.params.id)) := by
    refine .bind (.bind (relates_compute _) fun borrowUnit => ?_) fun _ => .pure _
    exact .bind (relates_writeExternal _ _) fun _ => .pure _
  refine .bind (relates_balancesOf hmarket) fun bal => .ite ?_ ?_
  · exact .bind (relates_compute _) fun unit => .bind (relates_writeExternal _ unit) fun _ =>
      .bind (.pure _) (hrest bal)
  · exact .bind (relates_onChain Chain.relates_theBasket) fun _ => .bind (.pure _) (hrest bal)

/-- **A synchronization runs alike** where the basket is the same, and the market too, but for
interest. -/
theorem relates_syncPositions (hmarket : r.market = r.params.id) :
    (syncPositions d basket r).Relates (Shows basket (Bank.Ahead r.params)) fun _ _ => True := by
  have hsupply : (supplyOf basket).Relates (Shows basket (Bank.Ahead r.params))
      (Shows basket (Bank.Ahead r.params)) :=
    .bind (relates_onChain Chain.relates_theBasket) fun _ => .pure _
  refine .bind hsupply fun supply => .ite (fun _ _ _ => .done trivial) ?_
  have haccrue : (lending (Bank.accrue r.params)).Relates (Shows basket (Bank.Ahead r.params))
      (Shows basket (Bank.SameAt r.params.id)) :=
    relates_onChain (Chain.relates_onBank (Bank.relates_accrue_ahead r.params))
  -- from here on both have the same interest in the books
  refine .bind haccrue fun _ => .bind (relates_writePositions hmarket supply) fun report => ?_
  exact .bind (.modify fun _ _ _ => trivial) fun _ => .pure _

/-- What a desk does for anyone who asks it to synchronize the basket. -/
def sync (basket : Address) (d : Desk) : Operation (Option SyncReport) := do
  let r ← recordOf d basket
  syncPositions d basket r

/-- **A synchronization of a basket runs alike** where the basket is the same, and every market too,
but for interest. -/
theorem alike_sync {records : FiniteMap Address Record} {c c' : Chain}
    (hsound : ∀ r, records.get? basket = some r → r.market = r.params.id)
    (hbasket : c'.baskets.get? basket = c.baskets.get? basket)
    (hbank : ∀ params, Bank.Ahead params c.toBank c'.toBank) :
    ((sync basket d).run ⟨c, records, []⟩).Alike (fun _ _ _ => True)
      ((sync basket d).run ⟨c', records, []⟩) := by
  have hstatus : c.status basket d.address = c'.status basket d.address := by
    rw [Chain.status, Chain.status, hbasket]
  have hrecord : (recordOf d basket).Relates
      (fun s t => s = ⟨c, records, []⟩ ∧ t = ⟨c', records, []⟩)
      (fun s t => s = ⟨c, records, []⟩ ∧ t = ⟨c', records, []⟩) := by
    refine .bind (.read ?_) fun status => .bind (.require _ _) fun _ =>
      .bind (.read ?_) fun found => .orRefuse _ _
    · rintro _ _ ⟨rfl, rfl⟩
      exact hstatus
    · rintro _ _ ⟨rfl, rfl⟩
      rfl
  refine Action.alike_bind ((hrecord _ _ ⟨rfl, rfl⟩).and_yields (recordOf_yields d basket _)) ?_
  rintro r _ _ ⟨⟨rfl, rfl⟩, -, hr⟩
  exact relates_syncPositions (hsound r hr) _ _ ⟨hbank r.params, hbasket⟩

end Operation

/-! ## What a synchronization writes -/

/-- **What a synchronization writes**: a market with its interest, and a basket with its units. -/
structure Refresh where
  params : MarketParams
  market : Market
  basket : Address
  state : Basket

namespace Refresh

variable {f g : Refresh} {c : Chain}

/-- The chain with the refresh written on it. -/
def apply (f : Refresh) (c : Chain) : Chain :=
  ({ c with toBank := c.toBank.booked f.params f.market } : Chain).setBasket f.basket f.state

/-- The market is what interest makes of the one on this chain. -/
structure Due (f : Refresh) (c : Chain) : Prop where
  accrues : (Bank.accrue f.params).run c.toBank = .done () (c.toBank.booked f.params f.market)
  settled : c.pool.now ≤ f.market.totals.lastUpdate

/-- There is one amount of interest for a market. -/
theorem Due.market_eq (hf : f.Due c) (hg : g.Due c) (h : f.params.id = g.params.id) :
    f.market = g.market := by
  have hsame := hf.accrues
  rw [Bank.accrue_congr h, hg.accrues] at hsame
  injection hsame with _ hbank
  have hf' : (c.toBank.booked f.params f.market).pool.markets.get? f.params.id = some f.market :=
    Bank.get?_booked_self
  rw [← hbank, h, Bank.get?_booked_self] at hf'
  exact (Option.some.inj hf').symm

/-- A chain with a refresh is ahead of the one without, by its interest. -/
theorem Due.ahead (hf : f.Due c) (params : MarketParams) :
    Bank.Ahead params c.toBank (f.apply c).toBank := by
  refine ⟨rfl, rfl, ?_⟩
  -- the market of the refresh has its interest by now, and every other is as it was
  by_cases h : params.id = f.params.id
  · refine .inr ⟨f.market, ?_, hf.settled, ?_⟩
    · rw [Bank.accrue_congr h, hf.accrues, Bank.booked, Bank.booked, h]
    · rw [h]
      exact Bank.get?_booked_self
  · exact .inl (c.pool.markets.get?_insert_of_ne h _)

/-- The interest of a market is the same after another refresh. -/
theorem Due.market_eq_of_apply (hf : f.Due c) (hg : g.Due c) {m : Market}
    (h : (Bank.accrue g.params).run (f.apply c).toBank =
      .done () ((f.apply c).toBank.booked g.params m)) : m = g.market := by
  have halike := Bank.relates_accrue_ahead g.params _ _ (hf.ahead g.params)
  rw [hg.accrues, h] at halike
  cases halike with
  | done hsame =>
    have hm := hsame.market
    rw [Bank.get?_booked_self, Bank.get?_booked_self] at hm
    exact Option.some.inj hm

/-- **Refreshes of two baskets commute.** -/
theorem apply_comm (hne : f.basket ≠ g.basket) (hf : f.Due c) (hg : g.Due c) :
    f.apply (g.apply c) = g.apply (f.apply c) := by
  have hmarkets : (c.pool.markets.insert g.params.id g.market).insert f.params.id f.market =
      (c.pool.markets.insert f.params.id f.market).insert g.params.id g.market := by
    -- one market is written twice alike, and two in either order
    by_cases h : f.params.id = g.params.id
    · rw [h, hf.market_eq hg h]
    · exact FiniteMap.insert_comm _ (Ne.symm h) _ _
  have hbaskets : (c.baskets.insert g.basket g.state).insert f.basket f.state =
      (c.baskets.insert f.basket f.state).insert g.basket g.state :=
    FiniteMap.insert_comm _ (Ne.symm hne) _ _
  simp only [apply, Chain.setBasket, Bank.booked, hmarkets, hbaskets]

end Refresh

namespace Operation

variable {d : Desk} {basket : Address} {c : Chain} {records : FiniteMap Address Record}
variable {found : Option SyncReport} {s : Session}

/-- The refresh that comes with a report. -/
def refreshOf (d : Desk) (basket : Address) (r : Record) (b : Basket) (m : Market)
    (report : SyncReport) : Refresh :=
  ⟨r.params, m, basket, { b with positions := r.restate d.address report b.positions }⟩

/-- **A synchronization writes the refresh of its report**, or nothing where it reports nothing. -/
theorem sync_writes (h : (sync basket d).run ⟨c, records, []⟩ = .done found s) :
    s.records = records ∧ s.events = syncEvents basket found ∧
      (found = none ∧ s.chain = c ∨
        ∃ r b m report, records.get? basket = some r ∧ c.baskets.get? basket = some b ∧
          found = some report ∧ (refreshOf d basket r b m report).Due c ∧
          s.chain = (refreshOf d basket r b m report).apply c) := by
  obtain ⟨r, s₁, hrecord, hdone⟩ := Action.run_bind_eq_done.1 h
  obtain ⟨-, hr, rfl⟩ := run_recordOf_eq_done.1 hrecord
  obtain ⟨b, hb⟩ := exists_basket_of_syncPositions hdone
  obtain ⟨-, rfl, rfl⟩ | ⟨-, bank, bal, report, haccrue, -, -, rfl, rfl⟩ :=
    (run_syncPositions_eq_done hb).1 hdone
  · exact ⟨rfl, rfl, .inl ⟨rfl, rfl⟩⟩
  · obtain ⟨m₀, m, -, haccrued, rfl⟩ := (Bank.accrue_spec r.params _).done haccrue
    exact ⟨rfl, rfl, .inr ⟨r, b, m, report, hr, hb, rfl, ⟨haccrue, haccrued.settled⟩, rfl⟩⟩

end Operation

/-! ## Answers -/

/-- What a synchronization answers. -/
abbrev SyncAnswer : Type := Except LeverageError (Option SyncReport)

namespace Desk

variable {d : Desk} {c c' c₁ c₂ : Chain} {x y : Address} {a a' : SyncAnswer}

/-- **A synchronization of the basket answers `a`** on this chain, and leaves the other. A refused
one leaves the chain as it was. -/
inductive Syncs (d : Desk) (x : Address) (c : Chain) : SyncAnswer → Chain → Prop where
  | done {found : Option SyncReport} {s : Session}
    (h : (Operation.sync x d).run ⟨c, d.records, []⟩ = .done found s) :
    Syncs d x c (.ok found) s.chain
  | refused {e : LeverageError} {s : Session}
    (h : (Operation.sync x d).run ⟨c, d.records, []⟩ = .refused e s) :
    Syncs d x c (.error e) c

/-- The desk remembers the market of each basket by its parameters. -/
def Sound (d : Desk) : Prop := ∀ x r, d.records.get? x = some r → r.market = r.params.id

/-- It has one answer, and leaves one chain. -/
theorem Syncs.unique (h : d.Syncs x c a c₁) (h' : d.Syncs x c a' c₂) : a = a' ∧ c₁ = c₂ := by
  cases h with
  | done h =>
    cases h' with
    | done h' =>
      rw [h] at h'
      cases h'
      exact ⟨rfl, rfl⟩
    | refused h' =>
      rw [h] at h'
      cases h'
  | refused h =>
    cases h' with
    | done h' =>
      rw [h] at h'
      cases h'
    | refused h' =>
      rw [h] at h'
      cases h'
      exact ⟨rfl, rfl⟩

/-- A synchronization always answers. -/
theorem Sound.exists_syncs (hd : d.Sound) (x : Address) (c : Chain) : ∃ a c', d.Syncs x c a c' := by
  -- it runs alike on the same chain, so it is not aborted
  have halike := Operation.alike_sync (d := d) (hd x) (c := c) rfl fun _ => ⟨rfl, rfl, .inl rfl⟩
  cases hrun : (Operation.sync x d).run ⟨c, d.records, []⟩ with
  | done found s => exact ⟨_, _, .done hrun⟩
  | refused e s => exact ⟨_, _, .refused hrun⟩
  | aborted =>
    rw [hrun] at halike
    cases halike

/-- **It writes the refresh of a report**, or nothing where it answers otherwise. -/
theorem Syncs.writes (h : d.Syncs x c a c') :
    (∀ report, a ≠ .ok (some report)) ∧ c' = c ∨
      ∃ r b m report, d.records.get? x = some r ∧ c.baskets.get? x = some b ∧
        a = .ok (some report) ∧ (Operation.refreshOf d x r b m report).Due c ∧
        c' = (Operation.refreshOf d x r b m report).apply c := by
  cases h with
  | refused hrun => exact .inl ⟨by simp, rfl⟩
  | done hrun =>
    obtain ⟨-, -, ⟨rfl, hchain⟩ | ⟨r, b, m, report, hr, hb, rfl, hdue, hchain⟩⟩ :=
      Operation.sync_writes hrun
    · exact .inl ⟨by simp, hchain⟩
    · exact .inr ⟨r, b, m, report, hr, hb, rfl, hdue, hchain⟩

section Others

variable {g : Refresh}

theorem get?_apply_of_ne (hne : g.basket ≠ x) :
    (g.apply c).baskets.get? x = c.baskets.get? x :=
  c.baskets.get?_insert_of_ne (Ne.symm hne) _

/-- After the refresh of another basket it answers the same. -/
theorem Syncs.again (hd : d.Sound) (h : d.Syncs x c a c') (hne : g.basket ≠ x) (hg : g.Due c) :
    ∃ c'', d.Syncs x (g.apply c) a c'' := by
  have halike := Operation.alike_sync (d := d) (hd x) (get?_apply_of_ne hne) hg.ahead
  -- so what it comes to there is of the same kind as what it has come to here
  generalize hrun' : (Operation.sync x d).run ⟨g.apply c, d.records, []⟩ = o at halike
  cases h with
  | done hrun =>
    rw [hrun] at halike
    cases halike
    exact ⟨_, .done hrun'⟩
  | refused hrun =>
    rw [hrun] at halike
    cases halike
    exact ⟨_, .refused hrun'⟩

/-- **And it writes the same**: the same units, from the same interest. -/
theorem Syncs.exists_refresh (hd : d.Sound) (h : d.Syncs x c a c') :
    ∃ f : Option Refresh, (∀ g ∈ f, g.basket = x ∧ g.Due c) ∧ c' = f.elim c (·.apply c) ∧
      ∀ g : Refresh, g.basket ≠ x → g.Due c →
        d.Syncs x (g.apply c) a (f.elim (g.apply c) (·.apply (g.apply c))) := by
  obtain ⟨hnone, rfl⟩ | ⟨r, b, m, report, hr, hb, rfl, hdue, rfl⟩ := h.writes
  · refine ⟨none, by simp, rfl, fun g hne hg => ?_⟩
    obtain ⟨c'', hagain⟩ := h.again hd hne hg
    obtain ⟨-, rfl⟩ | ⟨_, _, _, report, -, -, hreport, -⟩ := hagain.writes
    · exact hagain
    · exact absurd hreport (hnone report)
  · refine ⟨some (Operation.refreshOf d x r b m report), ?_, rfl, fun g hne hg => ?_⟩
    · rintro _ ⟨⟩
      exact ⟨rfl, hdue⟩
    · obtain ⟨c'', hagain⟩ := h.again hd hne hg
      obtain ⟨hnone, -⟩ | ⟨r', b', m', report', hr', hb', hreport, hdue', rfl⟩ := hagain.writes
      · exact absurd rfl (hnone report)
      · -- the record, the basket and the interest are the same, and with them the refresh
        cases hreport
        obtain rfl : r = r' := Option.some.inj (hr.symm.trans hr')
        rw [get?_apply_of_ne hne, hb] at hb'
        obtain rfl : b = b' := Option.some.inj hb'
        obtain rfl : m' = m := hg.market_eq_of_apply hdue hdue'.accrues
        exact hagain

end Others

/-- **Synchronizations of two baskets commute**: each answers the same after the other, and both
orders leave the same chain. -/
theorem Syncs.diamond (hd : d.Sound) (hne : x ≠ y) (hx : d.Syncs x c a c₁)
    (hy : d.Syncs y c a' c₂) : ∃ c₃, d.Syncs y c₁ a' c₃ ∧ d.Syncs x c₂ a c₃ := by
  obtain ⟨f, hf, rfl, hfx⟩ := hx.exists_refresh hd
  obtain ⟨g, hg, rfl, hgy⟩ := hy.exists_refresh hd
  cases f with
  | none =>
    cases g with
    | none => exact ⟨c, hy, hx⟩
    | some g =>
      obtain ⟨rfl, hdue⟩ := hg g rfl
      exact ⟨g.apply c, hy, hfx g (Ne.symm hne) hdue⟩
  | some f =>
    obtain ⟨rfl, hdue⟩ := hf f rfl
    cases g with
    | none => exact ⟨f.apply c, hgy f hne hdue, hx⟩
    | some g =>
      obtain ⟨rfl, hdue'⟩ := hg g rfl
      refine ⟨g.apply (f.apply c), hgy f hne hdue, ?_⟩
      rw [← Refresh.apply_comm hne hdue hdue']
      exact hfx g (Ne.symm hne) hdue'

/-! ## One basket after another -/

/-- **Synchronizations of these baskets, one after another**, give these answers, and lead from the
one chain to the other. -/
inductive SyncsEach (d : Desk) : List Address → Chain → List (Address × SyncAnswer) → Chain → Prop
  where
  | nil (c : Chain) : SyncsEach d [] c [] c
  | cons {x : Address} {rest : List Address} {c c₁ c₂ : Chain} {a : SyncAnswer}
    {answers : List (Address × SyncAnswer)} (hx : d.Syncs x c a c₁)
    (hrest : SyncsEach d rest c₁ answers c₂) : SyncsEach d (x :: rest) c ((x, a) :: answers) c₂

variable {baskets baskets' : List Address} {answers : List (Address × SyncAnswer)}

theorem Sound.exists_syncsEach (hd : d.Sound) (baskets : List Address) (c : Chain) :
    ∃ answers c', d.SyncsEach baskets c answers c' := by
  induction baskets generalizing c with
  | nil => exact ⟨[], c, .nil c⟩
  | cons x rest ih =>
    obtain ⟨a, c₁, hx⟩ := hd.exists_syncs x c
    obtain ⟨answers, c₂, hrest⟩ := ih c₁
    exact ⟨_, c₂, .cons hx hrest⟩

/-- **The order does not matter**: other orders give the answers in their order, and leave the same
chain. -/
theorem SyncsEach.perm (hd : d.Sound) (hperm : baskets.Perm baskets') (hnodup : baskets.Nodup)
    (h : d.SyncsEach baskets c answers c') :
    ∃ answers', answers.Perm answers' ∧ d.SyncsEach baskets' c answers' c' := by
  induction hperm generalizing c answers with
  | nil => exact ⟨answers, .refl _, h⟩
  | cons x _ ih =>
    cases h with
    | cons hx hrest =>
      obtain ⟨answers', hanswers, hrest'⟩ := ih hnodup.of_cons hrest
      exact ⟨_, hanswers.cons _, .cons hx hrest'⟩
  | swap x y rest =>
    cases h with
    | cons hy hrest =>
      cases hrest with
      | cons hx hrest =>
        have hne : y ≠ x := fun h => (List.nodup_cons.1 hnodup).1 (h ▸ List.mem_cons_self)
        -- the second could as well have been the first: from there both orders meet
        obtain ⟨a, c₁, hx₁⟩ := hd.exists_syncs x c
        obtain ⟨c₂, hx', hy'⟩ := hy.diamond hd hne hx₁
        obtain ⟨rfl, rfl⟩ := hx.unique hx'
        exact ⟨_, .swap _ _ _, .cons hx₁ (.cons hy' hrest)⟩
  | trans hperm _ ih ih' =>
    obtain ⟨answers₁, hanswers, h₁⟩ := ih hnodup h
    obtain ⟨answers₂, hanswers', h₂⟩ := ih' (hperm.nodup_iff.1 hnodup) h₁
    exact ⟨answers₂, hanswers.trans hanswers', h₂⟩

end Desk

/-! ## In the world -/

theorem World.sync_eq (x : Address) : World.sync x = World.operate (Operation.sync x) := rfl

/-- **Synchronizes the baskets, one after another**, whether each goes through or is refused. The
value is what each has answered. -/
def World.syncEach : List Address → World → Option (List (Address × SyncAnswer) × World)
  | [], w => some ([], w)
  | x :: rest, w => do
    let (answer, w₁) ← ((World.sync x).run w).answer?
    let (answers, w₂) ← syncEach rest w₁
    some ((x, answer) :: answers, w₂)

/-- Whether an answer is a report. -/
def SyncAnswer.isReport : SyncAnswer → Bool
  | .ok found => found.isSome
  | .error _ => false

/-- How many of the answers are reports. Each of these is an event. -/
def reported (answers : List (Address × SyncAnswer)) : Nat := answers.countP (·.2.isReport)

theorem length_syncEvents (basket : Address) (found : Option SyncReport) :
    (syncEvents basket found).length = if found.isSome then 1 else 0 := by
  cases found <;> rfl

namespace Desk

variable {d : Desk} {c c' : Chain} {x : Address} {a : SyncAnswer} {baskets : List Address}
variable {answers : List (Address × SyncAnswer)}

theorem SyncsEach.keys (h : d.SyncsEach baskets c answers c') :
    answers.map Prod.fst = baskets := by
  induction h with
  | nil => rfl
  | cons _ _ ih => rw [List.map_cons, ih]

/-- What is asked of the world is answered as the desk answers it, as long as there is a number for
the event of a report. -/
theorem Syncs.answer (h : d.Syncs x c a c') (log : EventLog) :
    (log.nextId.toNat + reported [(x, a)] < 1 <<< 64 →
      ∃ log', ((World.sync x).run ⟨c, { d with log := log }⟩).answer? =
          some (a, ⟨c', { d with log := log' }⟩) ∧
        log'.nextId.toNat = log.nextId.toNat + reported [(x, a)]) ∧
    (1 <<< 64 ≤ log.nextId.toNat + reported [(x, a)] →
      ((World.sync x).run ⟨c, { d with log := log }⟩).answer? = none) := by
  cases h with
  | refused h =>
    rw [World.sync_eq, World.operate_refused h]
    refine ⟨fun _ => ⟨log, rfl, rfl⟩, fun hfull => ?_⟩
    exact absurd hfull (Nat.not_le.2 log.nextId.isLt)
  | @done found s h =>
    obtain ⟨hrecords, hevents, -⟩ := Operation.sync_writes h
    have hcount : (syncEvents x found).length = reported [(x, .ok found)] := by
      rw [length_syncEvents, reported, List.countP_singleton]
      rfl
    have hdesk : ({ d with log := log, records := s.records } : Desk) = { d with log := log } := by
      rw [hrecords]
    rw [← hcount]
    constructor
    · intro hroom
      have hsome : ∃ log', log.append? d.settings.maxEvents.toNat d.clock (syncEvents x found) =
          some log' := EventLog.exists_append hroom
      obtain ⟨log', happend⟩ := hsome
      have hrun : (World.sync x).run ⟨c, { d with log := log }⟩ =
          .done found ⟨s.chain, { d with log := log' }⟩ := by
        refine World.operate_eq_done.2 ⟨s, _, h, ?_, rfl⟩
        rw [hdesk, hevents]
        exact Option.map_eq_some_iff.2 ⟨log', happend, rfl⟩
      rw [hrun]
      exact ⟨log', rfl, (EventLog.entries_append happend).2⟩
    · intro hfull
      have hrun : (World.sync x).run ⟨c, { d with log := log }⟩ = .aborted := by
        rw [World.sync_eq]
        refine World.operate_aborted h ?_
        rw [hdesk, hevents]
        exact Option.map_eq_none_iff.2 (EventLog.append_eq_none hfull)
      rw [hrun]
      rfl

/-- So it is for synchronizations one after another. -/
theorem SyncsEach.answer (h : d.SyncsEach baskets c answers c') (log : EventLog) :
    (log.nextId.toNat + reported answers < 1 <<< 64 →
      ∃ log', World.syncEach baskets ⟨c, { d with log := log }⟩ =
          some (answers, ⟨c', { d with log := log' }⟩) ∧
        log'.nextId.toNat = log.nextId.toNat + reported answers) ∧
    (1 <<< 64 ≤ log.nextId.toNat + reported answers →
      World.syncEach baskets ⟨c, { d with log := log }⟩ = none) := by
  induction h generalizing log with
  | nil c =>
    refine ⟨fun _ => ⟨log, rfl, rfl⟩, fun hfull => ?_⟩
    exact absurd hfull (Nat.not_le.2 log.nextId.isLt)
  | @cons x rest c c₁ c₂ a answers hx hrest ih =>
    have hcount : reported ((x, a) :: answers) = reported [(x, a)] + reported answers := by
      rw [reported, reported, reported, ← List.countP_append]
      rfl
    obtain ⟨hanswer, hstops⟩ := hx.answer log
    rw [hcount]
    -- the numbers may run out with the first of them, or later
    by_cases hroom : log.nextId.toNat + reported [(x, a)] < 1 <<< 64
    · obtain ⟨log₁, hrun, hid⟩ := hanswer hroom
      obtain ⟨hrests, hstops'⟩ := ih log₁
      constructor
      · intro hall
        obtain ⟨log₂, hrun', hid'⟩ := hrests (by omega)
        refine ⟨log₂, ?_, by omega⟩
        rw [World.syncEach, hrun, Option.bind_eq_bind, Option.bind_some]
        dsimp only
        rw [hrun']
        rfl
      · intro hfull
        rw [World.syncEach, hrun, Option.bind_eq_bind, Option.bind_some]
        dsimp only
        rw [hstops' (by omega)]
        rfl
    · constructor
      · omega
      · intro _
        rw [World.syncEach, hstops (by omega)]
        rfl

end Desk

/-- **The order of synchronizations does not matter.** In a world that can come about, let different
baskets be synchronized one after another at one time, in one order or in another. Either both
orders come to an end: then each basket answers the same in both, with the same report or the same
error, and both leave the same chain. Or in both the numbers for events run out on the way. -/
theorem World.Reachable.syncs_commute {w : World} (hw : w.Reachable)
    {baskets baskets' : List Address} (hnodup : baskets.Nodup) (hperm : baskets.Perm baskets') :
    (∃ answers answers' c log log',
      w.syncEach baskets = some (answers, ⟨c, { w.desk with log := log }⟩) ∧
      w.syncEach baskets' = some (answers', ⟨c, { w.desk with log := log' }⟩) ∧
      answers.map Prod.fst = baskets ∧ answers'.map Prod.fst = baskets' ∧
      answers.Perm answers' ∧ log.nextId = log'.nextId) ∨
    w.syncEach baskets = none ∧ w.syncEach baskets' = none ∧
      1 <<< 64 ≤ w.desk.log.nextId.toNat + baskets.length := by
  have hd : w.desk.Sound := fun x r hr => (hw.orderly.records x r hr).market
  obtain ⟨answers, c, h⟩ := hd.exists_syncsEach baskets w.chain
  obtain ⟨answers', hanswers, h'⟩ := h.perm hd hperm hnodup
  have hcount : reported answers = reported answers' := hanswers.countP_eq _
  obtain ⟨hgoes, hstops⟩ := h.answer w.desk.log
  obtain ⟨hgoes', hstops'⟩ := h'.answer w.desk.log
  by_cases hroom : w.desk.log.nextId.toNat + reported answers < 1 <<< 64
  · obtain ⟨log, hrun, hid⟩ := hgoes hroom
    obtain ⟨log', hrun', hid'⟩ := hgoes' (hcount ▸ hroom)
    exact .inl ⟨answers, answers', c, log, log', hrun, hrun', h.keys, h'.keys, hanswers,
      Word.ext (by omega)⟩
  · have hle : reported answers ≤ baskets.length := by
      rw [← h.keys, List.length_map]
      exact List.countP_le_length
    exact .inr ⟨hstops (by omega), hstops' (by omega), by omega⟩

/-- Another basket. -/
def neighbor : Address := .of 0x401

/-- An address with no basket. -/
def nowhere : Address := .of 0x402

open Deployment in
/-- The requests after which two baskets are levered in one market, with interest to come. -/
def gathering : List Request :=
  levering ++ [.chain (.basket neighbor (.create manager Amount.one [(wsteth, oneUnit)])),
    .chain (.basket neighbor (.addModule orchestrator)),
    .chain (.basket neighbor (.confirmModule orchestrator)),
    .chain (.basket neighbor (.addModule holder)),
    .desk (.basket neighbor (.setAllowed owner true)),
    .desk (.basket neighbor (.enrol manager params)),
    .desk (.basket neighbor (.enter manager)),
    .desk (.basket neighbor (.lever manager thousandUsdc 0 adapterName [])),
    .chain (.pool (.setRate params (number 1_000_000_000_000))),
    .chain (.pool (.advance (number 1_000)))]

open Deployment in
/-- So it is for two levered baskets and one that there is not: the two report, and for the third
the desk refuses, in whatever order they are asked. -/
theorem World.syncs_commute_of_gathering : ∃ w answers answers' c log log',
    World.runs gathering (start .usual) = some w ∧
    [Deployment.basket, neighbor, nowhere].Nodup ∧
    [Deployment.basket, neighbor, nowhere].Perm [nowhere, neighbor, Deployment.basket] ∧
    w.syncEach [Deployment.basket, neighbor, nowhere] =
      some (answers, ⟨c, { w.desk with log := log }⟩) ∧
    w.syncEach [nowhere, neighbor, Deployment.basket] =
      some (answers', ⟨c, { w.desk with log := log' }⟩) ∧
    reported answers = 2 ∧ answers.Perm answers' ∧ log.nextId = log'.nextId := by
  have hsyncs : ((World.runs gathering (start .usual)).bind fun w =>
      (w.syncEach [Deployment.basket, neighbor, nowhere]).map fun found =>
        decide (reported found.1 = 2)) = some true := by decide +kernel
  obtain ⟨w, hw, hsyncs⟩ := Option.bind_eq_some_iff.1 hsyncs
  obtain ⟨found, hfound, hreports⟩ := Option.map_eq_some_iff.1 hsyncs
  have hreachable : w.Reachable := ⟨pool, router, feeRecipient, holder, owner, .usual, _, hw⟩
  have hnodup : [Deployment.basket, neighbor, nowhere].Nodup := by decide
  have hperm : [Deployment.basket, neighbor, nowhere].Perm
      [nowhere, neighbor, Deployment.basket] := by decide
  obtain ⟨answers, answers', c, log, log', hrun, hrun', -, -, hanswers, hid⟩ | ⟨hnone, -⟩ :=
    World.Reachable.syncs_commute hreachable hnodup hperm
  · rw [hrun] at hfound
    obtain rfl := Option.some.inj hfound
    exact ⟨w, answers, answers', c, log, log', hw, hnodup, hperm, hrun, hrun',
      of_decide_eq_true hreports, hanswers, hid⟩
  · rw [hnone] at hfound
    cases hfound

end Leverage

end LeveredBasket
