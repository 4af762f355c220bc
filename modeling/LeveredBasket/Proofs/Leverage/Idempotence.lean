/-
Synchronizing (`LeverageModule::sync`), which anyone may do at any time, does no
harm.

A synchronization accrues interest and puts the units of its report on the ledger
(`run_syncPositions_eq_done`). So it changes the totals of one market, by their
interest, and the desk's own positions of two assets, and nothing else on the chain
(`Chain.Refreshed`).

To put a unit where it stands already is to leave the list as it is, the order of
the positions included. So a second synchronization finds a market that is up to date,
the same balances, and the units of its own report, and leaves the chain as it is.
-/
import LeveredBasket.Proofs.Leverage.Redemption
import LeveredBasket.Proofs.Leverage.Removal
import LeveredBasket.Proofs.Leverage.Rewriting

set_option autoImplicit false

namespace LeveredBasket

/-! ## Positions that are passed over -/

namespace Positions

variable {p q : Position} {ps : List Position} {f : Position → Bool}

theorem filter_put (hf : ∀ q : Position, q.place = p.place → f q = false)
    (ps : List Position) : (put p ps).filter f = ps.filter f := by
  unfold put
  split
  · rfl
  · exact filter_write hf ps

end Positions

namespace Leverage

open Lending (Bank Market)

/-! ## What is restated -/

/-- Whether a position is none that `holder` accounts for in the collateral or the loan asset. -/
def Record.passesOver (r : Record) (holder : Address) (p : Position) : Bool :=
  !(p.isExternalOf holder &&
    (p.component = r.params.collateralAsset || p.component = r.params.loanAsset))

/-- **`c'` is `c` but for interest and a desk's own units.** The market of the record is as accruing
leaves it, and the positions of the basket are the same, in the same order, when the desk's own of
the collateral and the loan asset are passed over. -/
def Chain.Refreshed (holder basket : Address) (r : Record) (c c' : Chain) : Prop :=
  ∃ m m' b ps, c.pool.markets.get? r.params.id = some m ∧ m.Accrued c.pool.now m' ∧
    (Bank.accrue r.params).run c.toBank = .done () (c.toBank.booked r.params m') ∧
    c.baskets.get? basket = some b ∧
    ps.filter (r.passesOver holder) = b.positions.filter (r.passesOver holder) ∧
    c' = ({ c with toBank := c.toBank.booked r.params m' } : Chain).setBasket basket
      { b with positions := ps }

/-- **What a synchronization has no part in** is on both chains the same: tokens and allowances,
what anyone has and owes in shares and collateral, prices and time, registry, venue and hooks, every
other basket, who is a module of which basket, and the basket's own positions. -/
structure Chain.Untouched (basket : Address) (c c' : Chain) : Prop where
  tokens : c'.tokens = c.tokens
  account (id : Lending.MarketId) (who : Address) : c'.pool.account id who = c.pool.account id who
  prices : c'.pool.prices = c.pool.prices
  now : c'.pool.now = c.pool.now
  registry : c'.registry = c.registry
  venue : c'.venue = c.venue
  hooks : c'.hooks = c.hooks
  others (address : Address) : address ≠ basket → c'.baskets.get? address = c.baskets.get? address
  status (address holder : Address) : c'.status address holder = c.status address holder
  defaults : (c'.positions basket).filter (·.kind = .default) =
    (c.positions basket).filter (·.kind = .default)

section Restating

variable {r : Record} {holder : Address} {report : SyncReport} {ps : List Position}
variable {b : Basket} {bal : Balances}

/-- The desk's own positions of the two assets are what is passed over. -/
theorem Record.filter_restate (r : Record) (holder : Address) (report : SyncReport)
    (ps : List Position) :
    (r.restate holder report ps).filter (r.passesOver holder) =
      ps.filter (r.passesOver holder) := by
  have hpassed {component : Address} {unit : PositionUnit} (q : Position)
      (hcomponent : component = r.params.collateralAsset ∨ component = r.params.loanAsset)
      (hq : q.place = (Position.ofExternal component holder unit).place) :
      r.passesOver holder q = false := by
    simp only [Position.place, Position.ofExternal, Prod.mk.injEq] at hq
    simpa [Record.passesOver, Position.isExternalOf, hq, or_iff_not_imp_left] using hcomponent
  unfold Record.restate
  rw [Positions.filter_put fun q hq => hpassed q (.inr rfl) hq]
  split
  · exact Positions.filter_put (fun q hq => hpassed q (.inl rfl) hq) ps
  · rfl

theorem Record.written_restate (r : Record) (holder : Address) (report : SyncReport)
    (ps : List Position) :
    Positions.Written (.ofExternal r.params.loanAsset holder report.borrowUnit)
      (if r.entered then
        Positions.put (.ofExternal r.params.collateralAsset holder report.collateralUnit) ps
      else ps) (r.restate holder report ps) := Positions.written_put _ _

/-- **To restate what has been restated changes nothing**: both units stand there by then, because
the second is put in another place than the first. -/
theorem Record.restate_restate (hdistinct : r.params.collateralAsset ≠ r.params.loanAsset)
    (h : Positions.Tidy ps) :
    r.restate holder report (r.restate holder report ps) = r.restate holder report ps := by
  have hdebt := r.written_restate holder report ps
  have hloan : Positions.put (.ofExternal r.params.loanAsset holder report.borrowUnit)
      (r.restate holder report ps) = r.restate holder report ps := by
    apply Positions.put_of_unit
    rw [hdebt.unit, if_pos rfl]
    split
    · exact (Positions.written_put _ _).tidy h
    · exact h
  rw [Record.restate]
  split
  case isFalse => exact hloan
  case isTrue hentered =>
    rw [if_pos hentered] at hdebt
    have hcollateral := Positions.written_put
      (.ofExternal r.params.collateralAsset holder report.collateralUnit) ps
    have hstands : Positions.put
        (.ofExternal r.params.collateralAsset holder report.collateralUnit)
        (r.restate holder report ps) = r.restate holder report ps := by
      apply Positions.put_of_unit
      rw [hdebt.unit (hcollateral.tidy h), if_neg (by simp [hdistinct]), hcollateral.unit h,
        if_pos rfl]
    rw [hstands, hloan]

/-- The units that a desk reports are not of positions that it puts: what is to be reported stays
the same. -/
theorem Record.report_restate (h : Positions.Tidy b.positions) :
    r.report { b with positions := r.restate holder report b.positions } bal = r.report b bal := by
  unfold Record.report
  split
  case isTrue => rfl
  case isFalse hentered =>
    have hdebt := r.written_restate holder report b.positions
    rw [if_neg hentered] at hdebt
    have hsame : Basket.defaultUnit { b with positions := r.restate holder report b.positions }
        r.params.collateralAsset = b.defaultUnit r.params.collateralAsset := by
      unfold Basket.defaultUnit
      rw [hdebt.unit h, if_neg (by simp)]
    rw [hsame]

end Restating

/-! ## Synchronizing again -/

namespace Operation

variable {d : Desk} {r : Record} {basket : Address} {b : Basket} {s s' : Session}

/-- **A second synchronization** from where the first has come to, by a desk of the same address,
comes to the same, and leaves the chain as it is. -/
theorem run_syncPositions_again (hdistinct : r.params.collateralAsset ≠ r.params.loanAsset)
    (hc : s.chain.Tidy) {found : Option SyncReport}
    (h : (syncPositions d basket r).run s = .done found s') {d' : Desk}
    (hd : d'.address = d.address) {s₁ : Session} (hs₁ : s₁.chain = s'.chain) :
    (syncPositions d' basket r).run s₁ = .done found (s₁.saying (syncEvents basket found)) := by
  obtain ⟨b, hb⟩ := exists_basket_of_syncPositions h
  obtain ⟨hnone, rfl, rfl⟩ | ⟨hsome, bank, bal, report, haccrue, hbal, hreport, rfl, rfl⟩ :=
    (run_syncPositions_eq_done hb).1 h
  · rw [← hs₁] at hb
    refine (run_syncPositions_eq_done hb).2 (.inl ⟨hnone, rfl, ?_⟩)
    simp [Session.saying, syncEvents]
  · -- the market is up to date, and everything else is as the report has it
    have hbank : s₁.chain.toBank = bank := congrArg Chain.toBank hs₁
    have hagain : (Bank.accrue r.params).run bank = .done () bank := by
      obtain ⟨m, m', -, haccrued, rfl⟩ := (Bank.accrue_spec r.params _).done haccrue
      exact Bank.accrue_settled Bank.get?_booked_self haccrued.settled
    have hb₁ : s₁.chain.baskets.get? basket =
        some { b with positions := r.restate d.address report b.positions } := by
      rw [hs₁]
      exact (s.withBank bank).get?_withPositions basket b _
    have htidy := hc basket b hb
    have hsame : s₁.withBank bank = s₁ := by
      rw [← hbank]
      rfl
    refine (run_syncPositions_eq_done hb₁).2 (.inr ⟨hsome, bank, bal, report, ?_, ?_, ?_, rfl, ?_⟩)
    · rw [hbank]
      exact hagain
    · rw [← hbal]
      exact r.balances_toBank rfl basket
    · rw [r.report_restate htidy]
      exact hreport
    · rw [hd, Record.restate_restate hdistinct htidy, hsame]
      exact congrArg (fun s₁ : Session => s₁.saying _) (Session.withPositions_self hb₁).symm

/-- **A synchronization changes interest and the desk's own units**, or nothing at all, where there
is no supply. -/
theorem refreshed_of_syncPositions (hb : s.chain.baskets.get? basket = some b)
    {found : Option SyncReport} (h : (syncPositions d basket r).run s = .done found s') :
    s'.records = s.records ∧ s'.events = s.events ++ syncEvents basket found ∧
      (b.supply = 0 ∧ found = none ∧ s'.chain = s.chain ∨
        b.supply ≠ 0 ∧ found ≠ none ∧ Chain.Refreshed d.address basket r s.chain s'.chain) := by
  obtain ⟨hnone, rfl, rfl⟩ | ⟨hsome, bank, bal, report, haccrue, -, -, rfl, rfl⟩ :=
    (run_syncPositions_eq_done hb).1 h
  · exact ⟨rfl, (List.append_nil _).symm, .inl ⟨hnone, rfl, rfl⟩⟩
  · obtain ⟨m, m', hm, haccrued, rfl⟩ := (Bank.accrue_spec r.params _).done haccrue
    refine ⟨rfl, rfl, .inr ⟨hsome, by simp, m, m', b, _, hm, haccrued, haccrue, hb, ?_, rfl⟩⟩
    exact r.filter_restate d.address report b.positions

end Operation

/-! ## What stays as it is -/

theorem Chain.Untouched.refl (basket : Address) (c : Chain) : Chain.Untouched basket c c :=
  ⟨rfl, fun _ _ => rfl, rfl, rfl, rfl, rfl, rfl, fun _ _ => rfl, fun _ _ => rfl, rfl⟩

/-- **A refreshed chain is untouched** beside interest and the desk's own units. -/
theorem Chain.Refreshed.untouched {holder basket : Address} {r : Record} {c c' : Chain}
    (h : Chain.Refreshed holder basket r c c') : Chain.Untouched basket c c' := by
  obtain ⟨m, m', b, ps, hm, haccrued, -, hb, hpositions, rfl⟩ := h
  constructor
  case account =>
    intro id who
    change (c.toBank.booked r.params m').pool.account id who = c.pool.account id who
    unfold Lending.Pool.account
    rw [Bank.get?_booked]
    by_cases hid : id = r.params.id
    · rw [if_pos hid, hid, hm]
      exact haccrued.account who
    · rw [if_neg hid]
  case others => exact fun address haddress => c.baskets.get?_insert_of_ne haddress _
  case status =>
    intro address x
    unfold Chain.status
    rw [Chain.get?_setBasket]
    by_cases haddress : address = basket
    · rw [if_pos haddress, haddress, hb]
      rfl
    · rw [if_neg haddress]
  case defaults =>
    -- a default position is none of the desk's, so it is among those that are passed over
    have hdefault (qs : List Position) : qs.filter (·.kind = .default) =
        (qs.filter (r.passesOver holder)).filter (·.kind = .default) := by
      rw [List.filter_filter]
      refine List.filter_congr fun q _ => ?_
      by_cases hq : q.kind = .default
      · simp [hq, Record.passesOver, Position.isExternalOf]
      · simp [hq]
    simp only [Chain.positions, Chain.get?_setBasket, if_true, hb]
    rw [hdefault ps, hpositions, ← hdefault]
  all_goals rfl

/-! ## Synchronizing in the world -/

section Worlds

variable {w w₁ : World} {basket : Address} {found : Option SyncReport}

theorem World.run_sync_eq_done : (World.sync basket).run w = .done found w₁ ↔
    ∃ r s desk, w.chain.status basket w.desk.address = .initialized ∧
      w.desk.records.get? basket = some r ∧
      (Operation.syncPositions w.desk basket r).run ⟨w.chain, w.desk.records, []⟩ =
        .done found s ∧
      { w.desk with records := s.records }.publish? s.events = some desk ∧
      w₁ = ⟨s.chain, desk⟩ := by
  rw [World.sync, World.operate_eq_done]
  simp only [Action.run_bind_eq_done, Operation.run_recordOf_eq_done]
  constructor
  · rintro ⟨s, desk, ⟨r, _, ⟨hstatus, hr, rfl⟩, hdone⟩, hpublish, rfl⟩
    exact ⟨r, s, desk, hstatus, hr, hdone, hpublish, rfl⟩
  · rintro ⟨r, s, desk, hstatus, hr, hdone, hpublish, rfl⟩
    exact ⟨s, desk, ⟨r, _, ⟨hstatus, hr, rfl⟩, hdone⟩, hpublish, rfl⟩

/-- **Synchronizing is harmless.** In a world that can come about, let anyone synchronize a basket
with success. All that this has changed on the chain is the totals of the basket's market, by their
interest, and the desk's own positions of the collateral and the loan asset, and without a supply it
has changed nothing. A second synchronization right afterwards comes to the same and leaves the
chain as it is. The one thing that can still come in between is that the desk has used up all
numbers for events. -/
theorem World.Reachable.sync_harmless (hw : w.Reachable)
    (h : (World.sync basket).run w = .done found w₁) :
    (∃ r b, w.desk.records.get? basket = some r ∧ w.chain.baskets.get? basket = some b ∧
      (b.supply = 0 ∧ found = none ∧ w₁.chain = w.chain ∨
        b.supply ≠ 0 ∧ found ≠ none ∧
          Chain.Refreshed w.desk.address basket r w.chain w₁.chain)) ∧
    Chain.Untouched basket w.chain w₁.chain ∧ (∃ log, w₁.desk = { w.desk with log := log }) ∧
    ((∃ w₂, (World.sync basket).run w₁ = .done found w₂ ∧ w₂.chain = w₁.chain) ∨
      found ≠ none ∧ w₁.desk.log.nextId = .largest 64 ∧
        (World.sync basket).run w₁ = .aborted) := by
  obtain ⟨r, s, desk, hstatus, hr, hdone, hpublish, rfl⟩ := World.run_sync_eq_done.1 h
  obtain ⟨b, hb⟩ := Operation.exists_basket_of_syncPositions hdone
  obtain ⟨hrecords, -, hchain⟩ := Operation.refreshed_of_syncPositions hb hdone
  obtain ⟨log, rfl⟩ := publish?_eq_some hpublish
  simp only [hrecords] at hpublish ⊢
  have huntouched : Chain.Untouched basket w.chain s.chain := by
    obtain ⟨-, -, hsame⟩ | ⟨-, -, hrefreshed⟩ := hchain
    · rw [hsame]
      exact .refl basket w.chain
    · exact hrefreshed.untouched
  refine ⟨⟨r, b, hr, hb, hchain⟩, huntouched, ⟨log, rfl⟩, ?_⟩
  have hdistinct := (hw.orderly.records basket r hr).distinct
  have hstatus₁ : s.chain.status basket w.desk.address = .initialized :=
    (huntouched.status _ _).trans hstatus
  -- the same operation, in a session that starts where the first has come to
  have hagain : (do
      let r ← Operation.recordOf { w.desk with log := log } basket
      Operation.syncPositions { w.desk with log := log } basket r :
        Operation (Option SyncReport)).run ⟨s.chain, w.desk.records, []⟩ =
      .done found (Session.saying ⟨s.chain, w.desk.records, []⟩ (syncEvents basket found)) := by
    have hrecord : (Operation.recordOf { w.desk with log := log } basket).run
        ⟨s.chain, w.desk.records, []⟩ = .done r ⟨s.chain, w.desk.records, []⟩ :=
      Operation.run_recordOf_eq_done.2 ⟨hstatus₁, hr, rfl⟩
    rw [Action.run_bind_of_done hrecord]
    exact Operation.run_syncPositions_again hdistinct hw.orderly.tidy hdone rfl rfl
  cases hsay : ({ w.desk with log := log } : Desk).publish? (syncEvents basket found) with
  | some desk =>
    exact .inl ⟨⟨s.chain, desk⟩, World.operate_eq_done.2 ⟨_, desk, hagain, hsay, rfl⟩, rfl⟩
  | none =>
    cases found with
    | none =>
      -- who has nothing to say can always say it
      cases hsay
    | some report =>
      exact .inr ⟨by simp, (Desk.publish?_eq_none _).1 hsay, World.operate_aborted hagain hsay⟩

open Deployment in
/-- So it is for the basket of the reference deployment with interest to come: the first
synchronization brings it in, and the second finds nothing to do. -/
theorem World.sync_harmless_of_lapsing : ∃ w w₁ w₂ report,
    World.runs lapsing (start .usual) = some w ∧
      (World.sync Deployment.basket).run w = .done (some report) w₁ ∧ w₁.chain ≠ w.chain ∧
      (World.sync Deployment.basket).run w₁ = .done (some report) w₂ ∧
      w₂.chain = w₁.chain := by
  have hruns : ((World.runs lapsing (start .usual)).map fun w =>
      ((World.sync Deployment.basket).run w).isDoneWith fun found w₁ =>
        found.isSome && decide (w₁.chain ≠ w.chain) &&
          decide (w₁.desk.log.nextId ≠ .largest 64)) = some true := by decide +kernel
  obtain ⟨w, hw, hruns⟩ := Option.map_eq_some_iff.1 hruns
  obtain ⟨found, w₁, hsync, hfound⟩ := Outcome.exists_of_isDoneWith hruns
  simp only [Bool.and_eq_true, decide_eq_true_eq] at hfound
  obtain ⟨⟨hsome, hchanged⟩, hnumbers⟩ := hfound
  obtain ⟨report, rfl⟩ := Option.isSome_iff_exists.1 hsome
  have hreachable : w.Reachable := ⟨pool, router, feeRecipient, holder, owner, .usual, _, hw⟩
  obtain ⟨w₂, hagain, hchain⟩ | ⟨-, hfull, -⟩ :=
    (World.Reachable.sync_harmless hreachable hsync).2.2.2
  · exact ⟨w, w₁, w₂, report, hw, hsync, hchanged, hagain, hchain⟩
  · exact absurd hfull hnumbers

end Worlds

end Leverage

end LeveredBasket
