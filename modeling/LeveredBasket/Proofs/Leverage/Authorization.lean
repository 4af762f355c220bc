/-
Who may have a desk do what.

Every operation on a basket but `sync` asks who is calling before it does anything. If
it goes through, the caller was the manager of an enabled basket, the basket itself, the
desk's owner, or an orchestrator that is initialized on the basket, enabled, and listed
in the basket's record (`BasketOperation.Authorized`). If it is refused nothing changes,
so that nothing ever changes for anybody else.

The guard of the hooks (`LeverageModule::only_module`) lets callers pass where there is
no record. It is the look-up of the record right after it that refuses them, and no
record comes back unless the basket is enrolled again (`Request.after_unenrolled`).
-/
import LeveredBasket.Proofs.Leverage.Atomicity
import LeveredBasket.Proofs.Leverage.Bookkeeping
import LeveredBasket.Proofs.Leverage.Grounding
import LeveredBasket.Proofs.Leverage.Journal
import LeveredBasket.Proofs.Leverage.Removal

set_option autoImplicit false

namespace LeveredBasket

/-- The basket is enabled, and this is its manager. -/
def Chain.ManagedBy (c : Chain) (basket caller : Address) : Prop :=
  c.registry.basketEnabled basket = true ∧
    ∃ b, c.baskets.get? basket = some b ∧ b.manager = caller

namespace Leverage

/-- The desk's hooks for the basket are registered with this orchestrator, which is initialized on
the basket and enabled. -/
def World.IssuedBy (w : World) (basket caller : Address) : Prop :=
  w.chain.status basket caller = .initialized ∧ w.chain.registry.moduleEnabled caller = true ∧
    ∃ r, w.desk.records.get? basket = some r ∧ caller ∈ r.issuers

/-- Whether an operation is a hook. -/
def BasketOperation.isHook : BasketOperation → Bool
  | .moduleHook _ | .issueHook .. | .redeemHook .. => true
  | .setAllowed .. | .enrol .. | .registerIssuer .. | .letGo _ | .enter _ | .lever .. |
    .delever .. | .deleverToZero .. | .sync => false

/-- **Who may have an operation carried out** on a basket. -/
def BasketOperation.Authorized (w : World) (basket : Address) : BasketOperation → Prop
  | .setAllowed caller _ => caller = w.desk.owner
  | .enrol caller _ | .registerIssuer caller _ | .enter caller | .lever caller _ _ _ _ |
    .delever caller _ _ _ _ | .deleverToZero caller _ _ _ => w.chain.ManagedBy basket caller
  | .letGo caller => caller = basket
  | .sync => True
  | .moduleHook caller | .issueHook caller _ _ _ | .redeemHook caller _ _ _ =>
    w.IssuedBy basket caller

/-- The request enrols the basket in this world: it is the request to do so, and goes through. -/
def Request.Enrols (basket : Address) (w : World) (r : Request) : Prop :=
  ∃ caller params w', r = .desk (.basket basket (.enrol caller params)) ∧
    ((BasketOperation.enrol caller params).perform basket).run w = .done () w'

/-! ## Guards -/

namespace Operation

variable {α : Type} {caller basket : Address} {d : Desk} {s s' : Session} {a : α}

/-- Nobody passes the first guard but the manager of an enabled basket. -/
theorem managedBy_of_done {f : Unit → Operation α}
    (h : (requireManager caller basket >>= f).run s = .done a s') :
    s.chain.ManagedBy basket caller := by
  obtain ⟨u, s₁, hguard, -⟩ := Action.run_bind_eq_done.1 h
  have hends : ((requireManager caller basket).run s).Yields
      fun _ _ => s.chain.ManagedBy basket caller := by
    simp only [Outcome.Yields, requireManager, Action.ends_bind, Action.ends_read,
      Action.ends_require, ends_ledger, Chain.ends_theBasket, implies_true, and_true]
    exact fun henabled b hb hmanager => ⟨henabled, b, hb, hmanager⟩
  exact hends.done hguard

theorem managedBy_of_entered {f : Record → Operation α}
    (h : (enteredRecord d caller basket >>= f).run s = .done a s') :
    s.chain.ManagedBy basket caller := by
  obtain ⟨r, s₁, hguard, -⟩ := Action.run_bind_eq_done.1 h
  exact managedBy_of_done hguard

/-- Nobody passes the guard and the look-up of the hooks but an orchestrator that the record
lists. -/
theorem issuedBy_of_done {f : Record → Operation α}
    (h : (do
      requireIssuer caller basket
      let r ← recordOf d basket
      f r : Operation α).run s = .done a s') :
    s.chain.status basket caller = .initialized ∧ s.chain.registry.moduleEnabled caller = true ∧
      ∃ r, s.records.get? basket = some r ∧ caller ∈ r.issuers := by
  obtain ⟨u, s₁, hguard, hrest⟩ := Action.run_bind_eq_done.1 h
  obtain ⟨r, s₂, hlookup, -⟩ := Action.run_bind_eq_done.1 hrest
  obtain rfl : s₁ = s := (requireIssuer_yields caller basket s).done hguard
  obtain ⟨rfl, hr⟩ := (recordOf_yields d basket s₁).done hlookup
  -- the guard only asks for the list of a record, and the look-up says that there is one
  have hends : ((requireIssuer caller basket).run s₂).Yields fun _ _ =>
      s₂.chain.status basket caller = .initialized ∧
        s₂.chain.registry.moduleEnabled caller = true ∧ caller ∈ r.issuers := by
    simp only [Outcome.Yields, requireIssuer, Action.ends_bind, Action.ends_read,
      Action.ends_require, hr, implies_true, and_true]
    exact fun hstatus henabled hlisted => ⟨hstatus, henabled, hlisted⟩
  obtain ⟨hstatus, henabled, hlisted⟩ := hends.done hguard
  exact ⟨hstatus, henabled, r, hr, hlisted⟩

/-- **Where there is no record every hook is refused**, if not by the guard, then by the
look-up. -/
theorem refused_of_unenrolled {f : Record → Operation α} (hnone : s.records.get? basket = none) :
    ∃ e, (do
      requireIssuer caller basket
      let r ← recordOf d basket
      f r : Operation α).run s = .refused e s := by
  have hlookup : ∃ e, (recordOf d basket >>= f).run s = .refused e s := by
    simp only [recordOf, Action.run_bind, Action.run_read]
    by_cases hstatus : s.chain.status basket d.address = .initialized
    · simp [Action.require_pos hstatus, hnone]
    · simp [Action.require_neg hstatus]
  simp only [requireIssuer, bind_assoc]
  rw [Action.run_bind, Action.run_read]
  by_cases hstatus : s.chain.status basket caller = .initialized
  · dsimp only
    rw [Action.require_pos hstatus, pure_bind, Action.run_bind, Action.run_read]
    by_cases henabled : s.chain.registry.moduleEnabled caller = true
    · dsimp only
      rw [Action.require_pos henabled, pure_bind, Action.run_bind, Action.run_read]
      simp only [hnone, pure_bind]
      exact hlookup
    · simp [Action.require_neg henabled, Action.run_bind]
  · simp [Action.require_neg hstatus, Action.run_bind]

end Operation

/-! ## Operations -/

section Operations

variable {w w' : World} {basket : Address} {operation : BasketOperation}

/-- **What goes through was authorized.** -/
theorem BasketOperation.authorized_of_done
    (h : (operation.perform basket).run w = .done () w') : operation.Authorized w basket := by
  cases operation with
  | setAllowed caller allowed =>
    have hends : ((World.setAllowed caller basket allowed).run w).Yields
        fun _ _ => caller = w.desk.owner := by
      simp only [Outcome.Yields, World.setAllowed, Action.ends_bind, Action.ends_read,
        Action.ends_require, implies_true, and_true]
      exact fun howner _ => Outcome.ends_of (fun _ _ => howner) fun _ _ => trivial
    exact hends.done h
  | enrol caller params =>
    obtain ⟨s, log, hrun, -⟩ := World.operate_yields h
    exact Operation.managedBy_of_done hrun
  | registerIssuer caller issuer =>
    obtain ⟨s, log, hrun, -⟩ := World.operate_yields h
    exact Operation.managedBy_of_done hrun
  | letGo caller =>
    obtain ⟨a, s, log, hrun, -⟩ := World.forget_operate_yields h
    exact (Action.run_require_bind_eq_done.1 hrun).1
  | enter caller =>
    obtain ⟨a, s, log, hrun, -⟩ := World.forget_operate_yields h
    exact Operation.managedBy_of_done hrun
  | lever caller borrowUnits minReceiveUnits adapterName route =>
    obtain ⟨a, s, log, hrun, -⟩ := World.forget_operate_yields h
    exact Operation.managedBy_of_entered hrun
  | delever caller redeemUnits minRepayUnits adapterName route =>
    obtain ⟨a, s, log, hrun, -⟩ := World.forget_operate_yields h
    exact Operation.managedBy_of_entered hrun
  | deleverToZero caller redeemUnits adapterName route =>
    obtain ⟨a, s, log, hrun, -⟩ := World.forget_operate_yields h
    exact Operation.managedBy_of_entered hrun
  | sync => exact trivial
  | moduleHook caller =>
    obtain ⟨a, s, log, hrun, -⟩ := World.forget_operate_yields h
    exact Operation.issuedBy_of_done hrun
  | issueHook caller quantity component isEquity =>
    obtain ⟨a, s, log, hrun, -⟩ := World.forget_operate_yields h
    exact Operation.issuedBy_of_done hrun
  | redeemHook caller quantity component isEquity =>
    obtain ⟨a, s, log, hrun, -⟩ := World.forget_operate_yields h
    exact Operation.issuedBy_of_done hrun

/-- What is refused in the session is refused in the world. -/
theorem World.forget_operate_refused {α : Type} {op : Desk → Operation α} {e : LeverageError}
    {s : Session} (h : (op w.desk).run ⟨w.chain, w.desk.records, []⟩ = .refused e s) :
    (do let _ ← World.operate op : Action World LeverageError Unit).run w = .refused e w := by
  rw [Action.run_bind, World.operate_refused h]

/-- **No hook gets through where there is no record.** -/
theorem BasketOperation.hook_refused (hhook : operation.isHook = true)
    (hnone : w.desk.records.get? basket = none) :
    ∃ e, (operation.perform basket).run w = .refused e w := by
  cases operation with
  | moduleHook caller =>
    obtain ⟨e, hrun⟩ := Operation.refused_of_unenrolled
      (s := ⟨w.chain, w.desk.records, []⟩) hnone
    exact ⟨e, World.forget_operate_refused hrun⟩
  | issueHook caller quantity component isEquity =>
    obtain ⟨e, hrun⟩ := Operation.refused_of_unenrolled
      (s := ⟨w.chain, w.desk.records, []⟩) hnone
    exact ⟨e, World.forget_operate_refused hrun⟩
  | redeemHook caller quantity component isEquity =>
    obtain ⟨e, hrun⟩ := Operation.refused_of_unenrolled
      (s := ⟨w.chain, w.desk.records, []⟩) hnone
    exact ⟨e, World.forget_operate_refused hrun⟩
  | _ => cases hhook

/-- An operation puts a record where there is none only if it enrols the basket. -/
theorem BasketOperation.Effect.unenrolled {z : Address} (h : operation.Effect basket w w')
    (hnone : w.desk.records.get? z = none)
    (henrol : ∀ caller params, operation = .enrol caller params → z ≠ basket) :
    w'.desk.records.get? z = none := by
  have hother {r : Record} (hr : w.desk.records.get? basket = some r) : z ≠ basket := by
    rintro rfl
    rw [hnone] at hr
    cases hr
  cases h with
  | listed _ hrecords => rw [hrecords, hnone]
  | kept _ _ _ hrecords => rw [hrecords, hnone]
  | enrolled _ _ _ _ hrecords =>
    rw [hrecords, FiniteMap.get?_insert_of_ne _ (henrol _ _ rfl), hnone]
  | registered hr _ hrecords =>
    rw [hrecords, FiniteMap.get?_insert_of_ne _ (hother hr), hnone]
  | entered hr _ _ _ hrecords =>
    rw [hrecords, FiniteMap.get?_insert_of_ne _ (hother hr), hnone]
  | released hr _ _ _ hrecords =>
    rw [hrecords, FiniteMap.get?_erase_of_ne _ (hother hr), hnone]

/-- **No request but one that enrols the basket** puts a record where there is none. -/
theorem Request.after_unenrolled {r : Request} (hw : w.Orderly Set.univ)
    (hnone : w.desk.records.get? basket = none) (henrols : ¬r.Enrols basket w)
    (h : r.after w = some w') : w'.desk.records.get? basket = none := by
  by_cases hr : ∃ caller params, r = .desk (.basket basket (.enrol caller params))
  · obtain ⟨caller, params, rfl⟩ := hr
    rcases Outcome.state?_eq_some h with ⟨_, hrun⟩ | ⟨e, hrun⟩
    · exact absurd ⟨caller, params, w', rfl, hrun⟩ henrols
    · -- refused, it leaves the world as it is
      obtain rfl : w' = w := hw.refused_eq (fun _ _ => trivial) hrun
      exact hnone
  · cases Request.effect hw h with
    | idle _ hrecords => rw [hrecords, hnone]
    | chain _ hrecords => rw [hrecords, hnone]
    | desk heffect =>
      apply heffect.unenrolled hnone
      rintro caller params rfl rfl
      exact hr ⟨caller, params, rfl⟩

/-- A basket that has let the desk go has no record. -/
theorem BasketOperation.letGo_unenrolled {caller : Address}
    (h : ((BasketOperation.letGo caller).perform basket).run w = .done () w') :
    w'.desk.records.get? basket = none := by
  cases BasketOperation.effect h with
  | kept hadjusts => cases hadjusts
  | released _ _ _ _ hrecords => rw [hrecords, FiniteMap.get?_erase_self]

end Operations

/-! ## Authorization -/

/-- **Authorization.** In a world that can come about, let the desk be asked for an operation on a
basket. If anything changes, the caller was authorized: only `sync` is open to all. The same holds
of permitting every basket, which is the owner's, and nothing but the desk's clock changes
otherwise.

When a basket has let the desk go, then whatever is asked after that, short of enrolling the basket
again, no hook for it gets through: whoever calls, it is refused and changes nothing. -/
theorem World.Reachable.authorized {w : World} (hw : w.Reachable) :
    (∀ basket operation w', (BasketOperation.perform basket operation).after w = some w' →
      w' ≠ w → operation.Authorized w basket) ∧
    (∀ caller anyAllowed w', (DeskRequest.setAnyAllowed caller anyAllowed).perform.after w =
      some w' → w' ≠ w → caller = w.desk.owner) ∧
    (∀ (r : DeskRequest) w', (∀ basket operation, r ≠ .basket basket operation) →
      (∀ caller anyAllowed, r ≠ .setAnyAllowed caller anyAllowed) → r.perform.after w = some w' →
      ∃ time, w' = { w with desk := { w.desk with clock := time } }) ∧
    ∀ caller basket w₁, ((BasketOperation.letGo caller).perform basket).run w = .done () w₁ →
      ∀ requests w₂, World.Along (fun v r => ¬r.Enrols basket v) requests w₁ →
      World.runs requests w₁ = some w₂ → ∀ operation : BasketOperation, operation.isHook = true →
      ∃ e, (operation.perform basket).run w₂ = .refused e w₂ := by
  have horderly := hw.orderly
  refine ⟨?_, ?_, ?_, ?_⟩
  · intro basket operation w' hafter hchanged
    rcases Outcome.state?_eq_some hafter with ⟨_, hrun⟩ | ⟨e, hrun⟩
    · exact BasketOperation.authorized_of_done hrun
    · have hsame : w' = w :=
        horderly.refused_eq (r := .basket basket operation) (fun _ _ => trivial) hrun
      exact absurd hsame hchanged
  · intro caller anyAllowed w' hafter hchanged
    have hends : ((World.setAnyAllowed caller anyAllowed).run w).Ends
        (fun _ _ => caller = w.desk.owner) fun _ v => v = w := by
      simp only [World.setAnyAllowed, Action.ends_bind, Action.ends_read, Action.ends_require,
        implies_true, and_true]
      intro howner
      exact (World.changeAllowList_aside _ _ w).imp (fun _ _ _ => howner) fun _ _ h => h.elim
    rcases Outcome.state?_eq_some hafter with ⟨_, hrun⟩ | ⟨e, hrun⟩
    · exact hends.done hrun
    · exact absurd (hends.refused hrun) hchanged
  · intro r w' hbasket hlist hafter
    cases r with
    | setTime time => exact ⟨time, (Option.some.inj hafter).symm⟩
    | advanceTime delay =>
      have hends : ((DeskRequest.advanceTime delay).perform.run w).Ends
          (fun _ v => ∃ time, v = { w with desk := { w.desk with clock := time } })
          fun _ _ => False := by
        simp only [DeskRequest.perform, World.advanceTime, World.setTime, Action.ends_bind,
          Action.ends_read, Action.ends_orAbort, Action.ends_modify, Action.run_pure,
          Outcome.ends_done]
        exact fun time _ => ⟨time, rfl⟩
      rcases Outcome.state?_eq_some hafter with ⟨_, hrun⟩ | ⟨e, hrun⟩
      · exact hends.done hrun
      · exact (hends.refused hrun).elim
    | setAnyAllowed caller anyAllowed => exact absurd rfl (hlist caller anyAllowed)
    | basket basket operation => exact absurd rfl (hbasket basket operation)
  · intro caller basket w₁ hletGo requests w₂ hquiet hruns operation hhook
    have hkept : w₂.Orderly Set.univ ∧ w₂.desk.records.get? basket = none := by
      apply World.along_induction
        ⟨horderly.performed hletGo, BasketOperation.letGo_unenrolled hletGo⟩ hquiet ?_ hruns
      rintro r v v' henrols ⟨hv, hnone⟩ hafter
      exact ⟨Request.after_orderly hv hafter, Request.after_unenrolled hv hnone henrols hafter⟩
    exact BasketOperation.hook_refused hhook hkept.2

open Deployment in
/-- So it is once the basket of the reference deployment has entered: the manager levers it, which
changes something. And where the basket lets the desk go instead, the orchestrator that was listed
for it is refused, also after the desk has been taken on again and is pending. -/
theorem World.authorized_of_entering : ∃ w w' w₁ w₂ e,
    World.runs entering (start .usual) = some w ∧
    ((BasketOperation.lever manager thousandUsdc 0 adapterName []).perform
      Deployment.basket).after w = some w' ∧ w' ≠ w ∧
    w.chain.ManagedBy Deployment.basket manager ∧
    ((BasketOperation.letGo Deployment.basket).perform Deployment.basket).run w = .done () w₁ ∧
    World.runs [.chain (.basket Deployment.basket (.addModule holder))] w₁ = some w₂ ∧
    ((BasketOperation.moduleHook orchestrator).perform Deployment.basket).run w₂ =
      .refused e w₂ := by
  have hcalls : ((World.runs entering (start .usual)).map fun w =>
      (((BasketOperation.lever manager thousandUsdc 0 adapterName []).perform
        Deployment.basket).run w).isDoneWith (fun _ w' =>
          decide (w'.desk.log.nextId ≠ w.desk.log.nextId)) &&
      (((BasketOperation.letGo Deployment.basket).perform Deployment.basket).run
        w).isDoneWith fun _ w₁ => (World.runs
          [.chain (.basket Deployment.basket (.addModule holder))] w₁).isSome) = some true := by
    decide +kernel
  obtain ⟨w, hw, hcalls⟩ := Option.map_eq_some_iff.1 hcalls
  obtain ⟨hlever, hletGo⟩ := Bool.and_eq_true_iff.1 hcalls
  obtain ⟨_, w', hlever, hchanged⟩ := Outcome.exists_of_isDoneWith hlever
  obtain ⟨_, w₁, hletGo, hruns⟩ := Outcome.exists_of_isDoneWith hletGo
  obtain ⟨w₂, hruns⟩ := Option.isSome_iff_exists.1 hruns
  have hreachable : w.Reachable := ⟨pool, router, feeRecipient, holder, owner, .usual, _, hw⟩
  obtain ⟨hoperations, -, -, hhooks⟩ := World.Reachable.authorized hreachable
  have hafter : ((BasketOperation.lever manager thousandUsdc 0 adapterName []).perform
      Deployment.basket).after w = some w' := congrArg Outcome.state? hlever
  have hne : w' ≠ w := by
    rintro rfl
    exact of_decide_eq_true hchanged rfl
  have hquiet : World.Along (fun v r => ¬r.Enrols Deployment.basket v)
      [.chain (.basket Deployment.basket (.addModule holder))] w₁ := by
    refine ⟨?_, fun _ _ => trivial⟩
    rintro ⟨caller, params, v, hr, -⟩
    cases hr
  obtain ⟨e, he⟩ := hhooks _ _ w₁ hletGo _ w₂ hquiet hruns (.moduleHook orchestrator) rfl
  exact ⟨w, w', w₁, w₂, e, hw, hafter, hne, hoperations _ _ w' hafter hne, hletGo, hruns, he⟩

end Leverage

end LeveredBasket
