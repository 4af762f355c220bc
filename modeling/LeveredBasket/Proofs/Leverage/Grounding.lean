/-
What a record points at is there.

A desk remembers a basket and its market by name. Nothing takes a basket off the
chain, and nothing takes a market out of the pool. So what was there when the basket
was enrolled is there ever after (`World.runs_grounded`).

To enrol a basket (`LeverageModule::initialize`) is the only way to a new record.
Registering with another orchestrator and entering write over the record that there
is, with the same market.
-/
import LeveredBasket.Proofs.Lending.Standing
import LeveredBasket.Proofs.Leverage.Steps

set_option autoImplicit false

namespace LeveredBasket

open Lending (Bank MarketParams PoolRequest)

/-- **`c'` retains `c`**: baskets and markets that were there are there. -/
structure Chain.Retains (c c' : Chain) : Prop where
  baskets : ∀ a, (c.baskets.get? a).isSome → (c'.baskets.get? a).isSome
  markets : ∀ id, c.toBank.Has id → c'.toBank.Has id

namespace Leverage

/-- **What the records point at is there**, and of the baskets that they are of, `P` holds. -/
structure Grounded (P : Address → Prop) (records : FiniteMap Address Record) (c : Chain) :
    Prop where
  asked : ∀ basket r, records.get? basket = some r → P basket
  basket : ∀ basket r, records.get? basket = some r → (c.baskets.get? basket).isSome
  market : ∀ basket r, records.get? basket = some r → c.toBank.Has r.params.id

/-- **Each record was there before**, with the same market, or it is of the given basket, which is
on the chain, and whose market is in the pool. -/
def Traced (basket : Address) (c : Chain) (records records' : FiniteMap Address Record) : Prop :=
  ∀ a r', records'.get? a = some r' →
    (∃ r, records.get? a = some r ∧ r'.params = r.params) ∨
      a = basket ∧ (c.baskets.get? basket).isSome ∧ c.toBank.Has r'.params.id

end Leverage

/-! ## Chains retain baskets and markets -/

namespace Chain

variable {c c' c'' : Chain} {a address : Address}

theorem Retains.refl (c : Chain) : c.Retains c := ⟨fun _ h => h, fun _ h => h⟩

theorem Retains.trans (h : c.Retains c') (h' : c'.Retains c'') : c.Retains c'' :=
  ⟨fun a ha => h'.baskets a (h.baskets a ha), fun id hid => h'.markets id (h.markets id hid)⟩

/-- To write a basket is to take none off the chain. -/
theorem isSome_setBasket (h : (c.baskets.get? a).isSome) (b : Basket) :
    ((c.setBasket address b).baskets.get? a).isSome := by
  rw [get?_setBasket]
  split
  · rfl
  · exact h

/-- **No request to a basket takes a basket off the chain.** -/
theorem keeps_baskets (a address : Address) (q : BasketRequest) :
    (q.perform address).Keeps (fun c => (c.baskets.get? a).isSome) fun _ => True := by
  have hwrote (p : Position) (c c' : Chain) (h : Wrote address p c c')
      (hc : (c.baskets.get? a).isSome) : (c'.baskets.get? a).isSome := by
    obtain ⟨b, ps, -, -, rfl⟩ := h
    exact isSome_setBasket hc _
  have hstatus (holder : Address) (status : ModuleStatus) :
      (Chain.setStatus address holder status).Keeps (fun c => (c.baskets.get? a).isSome)
        fun _ => True :=
    .bind (keeps_theBasket address) fun b c hc => isSome_setBasket hc _
  cases q with
  | create manager supply components =>
    intro c hc
    simp only [BasketRequest.perform, createBasket, Action.ends_bind, Action.ends_modify]
    refine (fund_spec (J := fun _ => True) (fun _ _ => trivial) components _ c trivial).imp ?_ ?_
    · rintro b _ ⟨-, t, -, rfl⟩
      exact isSome_setBasket (c := { c with tokens := t }) hc b
    · rintro _ _ ⟨t, -, rfl⟩
      exact ⟨hc, trivial⟩
  | addModule holder => exact hstatus holder .pending
  | detachModule holder => exact hstatus holder .none
  | confirmModule holder =>
    refine .bind (keeps_theBasket address) fun b => .bind (.require _ trivial) fun _ c hc => ?_
    exact isSome_setBasket hc _
  | setSupply supply =>
    intro c hc
    simp only [BasketRequest.perform, Action.ends_modify, setSupply]
    split
    · exact isSome_setBasket hc _
    · exact hc
  | editDefault component unit => exact keeps_editPosition (hwrote _)
  | editExternal component holder unit => exact keeps_editPosition (hwrote _)
  | writeDefault component unit => exact .bind (keeps_writePosition (hwrote _)) fun _ => .pure _
  | writeExternal component holder unit =>
    exact .bind (keeps_writePosition (hwrote _)) fun _ => .pure _
  | transfer asset recipient amount =>
    refine .bind (keeps_theBasket address) fun _ c hc => ?_
    rw [ends_onTokens]
    exact Outcome.ends_of (fun _ _ => hc) fun _ _ => ⟨hc, trivial⟩
  | approve asset spender amount => exact .bind (keeps_theBasket address) fun _ _ hc => hc
  | registerHook orchestrator hook =>
    refine .bind (.read _) fun _ => .bind (.require _ trivial) fun _ => ?_
    exact .bind (.read _) fun _ _ hc => hc
  | unregisterHook orchestrator hook =>
    refine .bind (.read _) fun _ => .bind (.require _ trivial) fun _ c hc => ?_
    simp only [Action.ends_modify, dropHook]
    split <;> exact hc

end Chain

/-- **Every request retains what is on the chain.** -/
theorem ChainRequest.after_retains {r : ChainRequest} {c c' : Chain} (h : r.after c = some c') :
    c.Retains c' := by
  constructor
  · intro a ha
    by_cases hr : ∃ address q, r = .basket address q
    · obtain ⟨address, q, rfl⟩ := hr
      exact (Chain.keeps_baskets a address q).after ha h
    · rw [after_baskets (fun address q hq => hr ⟨address, q, hq⟩) h]
      exact ha
  · intro id hid
    obtain ⟨q, rfl, hb⟩ | hpool := ChainRequest.after_bank h
    · exact (q.keeps_has id).after hid hb
    · rw [Bank.Has, hpool]
      exact hid

namespace Leverage

/-- So does all that an errand has come to. -/
theorem Errand.Moved.retains {k : Errand} {c : Chain} (h : k.Moved c) : k.start.Retains c := by
  apply Chain.Comes.keeps (I := fun d => k.start.Retains d) h (.refl _)
  intro r d d' _ hd hthrough
  exact hd.trans (ChainRequest.after_retains (ChainRequest.after_of_through hthrough))

/-! ## What becomes of records -/

section Traced

variable {basket : Address} {c c' : Chain} {records records' : FiniteMap Address Record}
variable {P : Address → Prop} {r r' : Record}

theorem Traced.refl (basket : Address) (c : Chain) (records : FiniteMap Address Record) :
    Traced basket c records records := fun _ r' hr' => .inl ⟨r', hr', rfl⟩

/-- The basket's record is written over, with the same market. -/
theorem Traced.insert (hr : records.get? basket = some r) (hparams : r'.params = r.params) :
    Traced basket c records (records.insert basket r') := by
  intro a q hq
  rw [FiniteMap.get?_insert] at hq
  split at hq
  case isTrue ha =>
    obtain rfl := Option.some.inj hq
    exact .inl ⟨r, ha ▸ hr, hparams⟩
  case isFalse => exact .inl ⟨q, hq, rfl⟩

/-- The basket is given a record. -/
theorem Traced.enrolled (hb : (c.baskets.get? basket).isSome) (hm : c.toBank.Has r'.params.id) :
    Traced basket c records (records.insert basket r') := by
  intro a q hq
  rw [FiniteMap.get?_insert] at hq
  split at hq
  case isTrue ha =>
    obtain rfl := Option.some.inj hq
    exact .inr ⟨ha, hb, hm⟩
  case isFalse => exact .inl ⟨q, hq, rfl⟩

theorem Traced.erase : Traced basket c records (records.erase basket) := by
  intro a q hq
  by_cases ha : a = basket
  · rw [ha, FiniteMap.get?_erase_self] at hq
    cases hq
  · rw [FiniteMap.get?_erase_of_ne records ha] at hq
    exact .inl ⟨q, hq, rfl⟩

/-- **Records that are traced to grounded ones are grounded.** -/
theorem Grounded.traced (h : Grounded P records c) (hP : P basket) (hc : c.Retains c')
    (htraced : Traced basket c records records') : Grounded P records' c' := by
  refine ⟨fun a q hq => ?_, fun a q hq => ?_, fun a q hq => ?_⟩
  · rcases htraced a q hq with ⟨r, hr, -⟩ | ⟨rfl, -, -⟩
    · exact h.asked a r hr
    · exact hP
  · refine hc.baskets a ?_
    rcases htraced a q hq with ⟨r, hr, -⟩ | ⟨rfl, hb, -⟩
    · exact h.basket a r hr
    · exact hb
  · refine hc.markets _ ?_
    rcases htraced a q hq with ⟨r, hr, hparams⟩ | ⟨-, -, hm⟩
    · rw [hparams]
      exact h.market a r hr
    · exact hm

theorem Grounded.retained (h : Grounded P records c) (hc : c.Retains c') :
    Grounded P records c' :=
  ⟨h.asked, fun a r hr => hc.baskets a (h.basket a r hr),
    fun a r hr => hc.markets _ (h.market a r hr)⟩

end Traced

/-! ## Operations and records -/

namespace Operation

/-- **To enrol** a basket gives it a record, if it is there and its market is. -/
theorem enrol_traced (caller basket : Address) (params : MarketParams) (d : Desk) (s : Session) :
    ((enrol caller basket params d).run s).Yields fun _ s' =>
      Traced basket s.chain s.records s'.records := by
  refine (enrol_yields caller basket params d s).yields ?_
  rintro _ s' ⟨b, m, issuer, -, hb, hm, hbooks⟩
  rw [(Session.books_eq hbooks).2.1]
  exact .enrolled (Option.isSome_of_eq_some hb) ⟨m, hm⟩

/-- To register with another orchestrator changes no market. -/
theorem registerIssuer_traced (caller basket issuer : Address) (d : Desk) (s : Session) :
    ((registerIssuer caller basket issuer d).run s).Yields fun _ s' =>
      Traced basket s.chain s.records s'.records := by
  refine (registerIssuer_yields caller basket issuer d s).yields ?_
  rintro _ s' ⟨r, hr, hbooks⟩
  rw [(Session.books_eq hbooks).2.1]
  exact .insert hr rfl

/-- Entering changes no market. -/
theorem enter_traced (caller basket : Address) (d : Desk) (s : Session) :
    ((enter caller basket d).run s).Yields fun _ s' =>
      Traced basket s.chain s.records s'.records := by
  refine (enter_yields caller basket d s).yields ?_
  rintro _ s' ⟨r, notional, -, hr, -, hrecords, -⟩
  rw [hrecords]
  exact .insert hr rfl

/-- Who lets the desk go is forgotten. -/
theorem letGo_traced (caller basket : Address) (d : Desk) (s : Session) :
    ((letGo caller basket d).run s).Yields fun _ s' =>
      Traced basket s.chain s.records s'.records := by
  refine (letGo_yields caller basket d s).yields ?_
  rintro _ s' ⟨r, b, -, -, -, -, hrecords, -⟩
  rw [hrecords]
  exact .erase

end Operation

/-! ## Runs -/

section Runs

variable {P : Address → Prop} {w w' : World} {basket : Address}

/-- An operation that goes through and of whose session the records are traced. -/
theorem World.operate_traced {α : Type} {op : Desk → Operation α} {a : α}
    (h : ((op w.desk).run ⟨w.chain, w.desk.records, []⟩).Yields fun _ s' =>
      Traced basket w.chain w.desk.records s'.records)
    (hrun : (World.operate op).run w = .done a w') :
    Traced basket w.chain w.desk.records w'.desk.records := by
  obtain ⟨s, log, hdone, rfl⟩ := World.operate_yields hrun
  exact h.done hdone

/-- So are the records of one that keeps them. -/
theorem World.operate_kept {α : Type} {op : Desk → Operation α} {a : α} (hw : w.Orderly Set.univ)
    (h : (hw.errand basket).Conducts w.desk.records (op w.desk))
    (hrun : (World.operate op).run w = .done a w') :
    Traced basket w.chain w.desk.records w'.desk.records := by
  rw [(World.operate_conducted hw h hrun).2]
  exact .refl _ _ _

/-- **Whatever is asked of a desk about a basket**, its records are traced to those before. -/
theorem BasketOperation.traced (hw : w.Orderly Set.univ) {operation : BasketOperation}
    (h : (operation.perform basket).run w = .done () w') :
    Traced basket w.chain w.desk.records w'.desk.records := by
  have hrecords : SoundRecords (hw.errand basket).known w.desk.records := hw.records
  cases operation with
  | setAllowed caller allowed =>
    rw [((World.setAllowed_aside caller basket allowed w).done h).2]
    exact .refl _ _ _
  | enrol caller params =>
    exact World.operate_traced (Operation.enrol_traced caller basket params _ _) h
  | registerIssuer caller issuer =>
    exact World.operate_traced (Operation.registerIssuer_traced caller basket issuer _ _) h
  | letGo caller =>
    obtain ⟨_, h⟩ := Action.run_forget_eq_done.1 h
    exact World.operate_traced (Operation.letGo_traced caller basket _ _) h
  | enter caller =>
    obtain ⟨_, h⟩ := Action.run_forget_eq_done.1 h
    exact World.operate_traced (Operation.enter_traced caller basket _ _) h
  | lever caller borrowUnits minReceiveUnits adapterName route =>
    obtain ⟨_, h⟩ := Action.run_forget_eq_done.1 h
    exact World.operate_kept hw (Errand.attains_lever rfl hrecords _ _ _ _ _).leads h
  | delever caller redeemUnits minRepayUnits adapterName route =>
    obtain ⟨_, h⟩ := Action.run_forget_eq_done.1 h
    exact World.operate_kept hw (Errand.attains_delever rfl hrecords _ _ _ _ _).leads h
  | deleverToZero caller redeemUnits adapterName route =>
    obtain ⟨_, h⟩ := Action.run_forget_eq_done.1 h
    exact World.operate_kept hw (Errand.attains_deleverToZero rfl hrecords _ _ _ _).leads h
  | sync =>
    obtain ⟨_, h⟩ := Action.run_forget_eq_done.1 h
    exact World.operate_kept hw (Errand.attains_sync rfl hrecords).leads h
  | moduleHook caller =>
    obtain ⟨_, h⟩ := Action.run_forget_eq_done.1 h
    exact World.operate_kept hw (Errand.attains_moduleHook rfl hrecords caller).leads h
  | issueHook caller quantity component isEquity =>
    obtain ⟨_, h⟩ := Action.run_forget_eq_done.1 h
    exact World.operate_kept hw (Errand.conducts_issueHook rfl hrecords _ _ _ _) h
  | redeemHook caller quantity component isEquity =>
    obtain ⟨_, h⟩ := Action.run_forget_eq_done.1 h
    exact World.operate_kept hw (Errand.conducts_redeemHook rfl hrecords _ _ _ _) h

/-- Every request leaves the world in order. -/
theorem Request.after_orderly (hw : w.Orderly Set.univ) {r : Request} (h : r.after w = some w') :
    w'.Orderly Set.univ := by
  cases r with
  | chain q =>
    obtain ⟨c, hc, rfl⟩ := Option.map_eq_some_iff.1 h
    exact ⟨ChainRequest.after_tidy hw.tidy hc, hw.records⟩
  | desk q => exact (DeskRequest.after_spec hw (fun _ _ => trivial) h).1

/-- **Every request leaves records grounded**, if `P` holds of the basket that it is about. -/
theorem Request.after_grounded (hw : w.Orderly Set.univ)
    (h : Grounded P w.desk.records w.chain) {r : Request}
    (hP : ∀ basket operation, r = .desk (.basket basket operation) → P basket)
    (hafter : r.after w = some w') : Grounded P w'.desk.records w'.chain := by
  cases r with
  | chain q =>
    obtain ⟨c, hc, rfl⟩ := Option.map_eq_some_iff.1 hafter
    exact h.retained (ChainRequest.after_retains hc)
  | desk q =>
    by_cases hq : ∃ basket operation, q = .basket basket operation
    · obtain ⟨basket, operation, rfl⟩ := hq
      have hspec := operation.perform_spec hw basket fun _ _ => trivial
      have hends : ((operation.perform basket).run w).Ends
          (fun _ w' => Grounded P w'.desk.records w'.chain)
          fun _ w' => Grounded P w'.desk.records w'.chain := by
        refine Outcome.ends_iff.2 ⟨fun _ v hrun => ?_, fun e v hrun => ?_⟩
        · exact h.traced (hP basket operation rfl) (hspec.done hrun).chain.retains
            (BasketOperation.traced hw hrun)
        · obtain ⟨rfl, -⟩ := hspec.refused hrun
          exact h
      exact hends.state hafter
    · obtain ⟨hchain, hrecords⟩ :=
        DeskRequest.after_aside (fun basket operation h => hq ⟨basket, operation, h⟩) hafter
      rw [hchain, hrecords]
      exact h

/-- **What the records point at is there**, whatever has been asked in a run. -/
theorem World.runs_grounded {pool router feeRecipient holder owner : Address}
    {settings : Settings} {requests : List Request}
    (hP : ∀ basket operation, .desk (.basket basket operation) ∈ requests → P basket)
    (hrun : runs requests (blank pool router feeRecipient holder owner settings) = some w) :
    Grounded P w.desk.records w.chain := by
  have hkeeps : w.Orderly Set.univ ∧ Grounded P w.desk.records w.chain := by
    refine runs_induction (I := fun v => v.Orderly Set.univ ∧
      Grounded P v.desk.records v.chain) ⟨orderly_blank _ _ _ _ _ _ _, ?_⟩ ?_ hrun
    · have hnone (a : Address) : (FiniteMap.empty : FiniteMap Address Record).get? a = none :=
        FiniteMap.get?_empty a
      refine ⟨fun a r hr => ?_, fun a r hr => ?_, fun a r hr => ?_⟩ <;>
        exact absurd ((hnone a).symm.trans hr) (by simp)
    · rintro r hr v v' ⟨hv, hgrounded⟩ hafter
      refine ⟨Request.after_orderly hv hafter, ?_⟩
      exact Request.after_grounded hv hgrounded (fun basket operation h => hP basket operation
        (h ▸ hr)) hafter
  exact hkeeps.2

end Runs

end Leverage

end LeveredBasket
