/-
Hooks and records agree.

The desk is on the hook lists of orchestrators (`DebtIssuance::register_hook`), and
its records name orchestrators. Where nobody else registers or takes off its hook, it
is on an orchestrator's list for a basket as often as the basket's record names that
orchestrator, and that is once or not at all (`Registrations`). Both lists grow in the
same way, by what is not in them yet, and both are emptied when the basket lets the
desk go. Hooks of others may come and go in between.
-/
import LeveredBasket.Proofs.Leverage.Bookkeeping
import LeveredBasket.Proofs.Leverage.Grounding

set_option autoImplicit false

namespace LeveredBasket

open Lending (MarketParams)

namespace Leverage

/-- The hook that a request to the chain registers or takes off. -/
def Request.hook? : Request → Option Address
  | chain (.basket _ q) => q.hook?
  | chain _ => none
  | desk _ => none

/-- The orchestrators that a desk has on record for a basket. -/
def issuersOn (records : FiniteMap Address Record) (basket : Address) : List Address :=
  ((records.get? basket).map (·.issuers)).getD []

/-- **Hooks and records agree**: the module is on each list as often as the record says, which names
nobody twice and is never without anybody. -/
structure Registrations (holder : Address) (records : FiniteMap Address Record) (c : Chain) :
    Prop where
  count : ∀ orchestrator basket, (c.hooksOf orchestrator basket).count holder =
    (issuersOn records basket).count orchestrator
  nodup : ∀ basket, (issuersOn records basket).Nodup
  nonempty : ∀ basket r, records.get? basket = some r → r.issuers ≠ []

/-! ## Steps -/

section Registered

variable {records records' : FiniteMap Address Record} {basket holder : Address} {r : Record}
variable {c c' : Chain} {w w' : World}

theorem issuersOn_insert (records : FiniteMap Address Record) (basket : Address) (r : Record)
    (a : Address) : issuersOn (records.insert basket r) a =
      if a = basket then r.issuers else issuersOn records a := by
  rw [issuersOn, FiniteMap.get?_insert]
  split <;> rfl

theorem issuersOn_erase (records : FiniteMap Address Record) (basket a : Address) :
    issuersOn (records.erase basket) a = if a = basket then [] else issuersOn records a := by
  rw [issuersOn]
  split
  case isTrue ha =>
    rw [ha, FiniteMap.get?_erase_self]
    rfl
  case isFalse ha =>
    rw [FiniteMap.get?_erase_of_ne records ha]
    rfl

theorem issuersOn_of_get? (h : records.get? basket = some r) :
    issuersOn records basket = r.issuers := by
  rw [issuersOn, h]
  rfl

theorem issuersOn_of_none (h : records.get? basket = none) : issuersOn records basket = [] := by
  rw [issuersOn, h]
  rfl

namespace Registrations

/-- Nothing agrees with nothing. -/
theorem empty (holder : Address) (h : c.hooks = .empty) :
    Registrations holder .empty c := by
  have hnone (a : Address) : (FiniteMap.empty : FiniteMap Address Record).get? a = none :=
    FiniteMap.get?_empty a
  refine ⟨fun o a => ?_, fun a => ?_, fun a r hr => ?_⟩
  · rw [issuersOn_of_none (hnone a), Chain.hooksOf, h]
    rfl
  · rw [issuersOn_of_none (hnone a)]
    exact List.nodup_nil
  · rw [hnone a] at hr
    cases hr

/-- Agreement is a matter of how often the module is on the lists. -/
theorem of_count (h : Registrations holder records c)
    (hcount : ∀ o a, (c'.hooksOf o a).count holder = (c.hooksOf o a).count holder) :
    Registrations holder records c' :=
  ⟨fun o a => (hcount o a).trans (h.count o a), h.nodup, h.nonempty⟩

theorem of_hooks (h : Registrations holder records c) (hhooks : c'.hooks = c.hooks) :
    Registrations holder records c' :=
  h.of_count fun o a => by rw [Chain.hooksOf_eq hhooks]

/-- A record with the same orchestrators agrees with the same lists. -/
theorem insert (h : Registrations holder records c) (hr : records.get? basket = some r)
    {r' : Record} (hissuers : r'.issuers = r.issuers) :
    Registrations holder (records.insert basket r') c := by
  have hsame (a : Address) : issuersOn (records.insert basket r') a = issuersOn records a := by
    rw [issuersOn_insert]
    split
    case isTrue ha => rw [ha, hissuers, issuersOn_of_get? hr]
    case isFalse => rfl
  refine ⟨fun o a => ?_, fun a => ?_, fun a q hq => ?_⟩
  · rw [hsame]
    exact h.count o a
  · rw [hsame]
    exact h.nodup a
  · rw [FiniteMap.get?_insert] at hq
    split at hq
    · obtain rfl := Option.some.inj hq
      rw [hissuers]
      exact h.nonempty basket r hr
    · exact h.nonempty a q hq

/-- **With one orchestrator more**, on the record and among those that have the module on their
list, the two still agree. -/
theorem hookIn (h : Registrations holder records c) {issuer : Address} {issuers : List Address}
    (hissuers : issuers = issuersOn records basket) {r' : Record}
    (hr' : r'.issuers = if issuer ∈ issuers then issuers else issuers ++ [issuer]) :
    Registrations holder (records.insert basket r') (c.hookIn issuer basket holder) := by
  subst hissuers
  refine ⟨fun o a => ?_, fun a => ?_, fun a q hq => ?_⟩
  · rw [Chain.count_hookIn, issuersOn_insert, h.count]
    by_cases ha : a = basket
    · subst ha
      rw [if_pos rfl, hr', count_once]
      by_cases ho : o = issuer
      · rw [if_pos ⟨by rw [ho], rfl⟩, if_pos ho, ho]
      · rw [if_neg fun hplace => ho (Prod.mk.inj hplace.1).1, if_neg ho]
    · rw [if_neg fun hplace => ha (Prod.mk.inj hplace.1).2, if_neg ha]
  · rw [issuersOn_insert]
    split
    · rw [hr']
      exact nodup_once (h.nodup basket) issuer
    · exact h.nodup a
  · rw [FiniteMap.get?_insert] at hq
    split at hq
    · obtain rfl := Option.some.inj hq
      rw [hr']
      split
      case isTrue hmem => exact List.ne_nil_of_mem hmem
      case isFalse => simp
    · exact h.nonempty a q hq

/-- **Once the basket has let the desk go**, there is nothing on record and on no list. -/
theorem dropHooks (h : Registrations holder records c) (hr : records.get? basket = some r) :
    Registrations holder (records.erase basket)
      (r.issuers.foldl (fun c issuer => c.dropHook issuer basket holder) c) := by
  refine ⟨fun o a => ?_, fun a => ?_, fun a q hq => ?_⟩
  · rw [Chain.count_dropHooks, issuersOn_erase]
    by_cases ha : a = basket
    · rw [if_pos ha, List.count_nil]
      split
      case isTrue => rfl
      case isFalse hnot =>
        rw [h.count, ha, issuersOn_of_get? hr]
        exact List.count_eq_zero.2 fun ho => hnot ⟨ha, ho⟩
    · rw [if_neg fun hplace => ha hplace.1, if_neg ha, h.count]
  · rw [issuersOn_erase]
    split
    · exact List.nodup_nil
    · exact h.nodup a
  · by_cases ha : a = basket
    · rw [ha, FiniteMap.get?_erase_self] at hq
      cases hq
    · rw [FiniteMap.get?_erase_of_ne records ha] at hq
      exact h.nonempty a q hq

/-- A request to the chain that is not about the module's hook leaves hooks and records in
agreement. -/
theorem requested (h : Registrations holder records c) {q : ChainRequest} (hq : q.Effect c c')
    (hown : (Request.chain q).hook? ≠ some holder) : Registrations holder records c' := by
  cases hq with
  | aside _ hhooks => exact h.of_hooks hhooks
  | created _ _ hhooks => exact h.of_hooks hhooks
  | rewritten _ _ hchain =>
    subst hchain
    exact h.of_hooks rfl
  | wrote hwrote =>
    obtain ⟨b, ps, -, -, rfl⟩ := hwrote
    exact h.of_hooks rfl
  | hooked hchain =>
    subst hchain
    refine h.of_count fun o a => ?_
    rw [Chain.count_hookIn, if_neg fun hplace => hown (congrArg some hplace.2.symm)]
  | dropped hchain =>
    subst hchain
    refine h.of_count fun o a => ?_
    rw [Chain.count_dropHook, if_neg fun hplace => hown (congrArg some hplace.2.symm)]

/-- **Every operation leaves hooks and records in agreement.** -/
theorem operated {operation : BasketOperation}
    (h : Registrations w.desk.address w.desk.records w.chain)
    (heffect : operation.Effect basket w w') :
    Registrations w.desk.address w'.desk.records w'.chain := by
  cases heffect with
  | listed hchain hrecords =>
    rw [hchain, hrecords]
    exact h
  | kept _ _ hchain hrecords =>
    rw [hrecords]
    exact h.of_hooks hchain.hooks
  | @enrolled _ issuer params b hnew _ _ hchain hrecords =>
    have hfirst : (⟨params, params.id, false, [issuer]⟩ : Record).issuers =
        if issuer ∈ [] then [] else [] ++ [issuer] := by simp
    have hsame : (w.chain.setBasket basket
        (b.setStatus w.desk.address .initialized)).hooks = w.chain.hooks := rfl
    rw [hchain, hrecords]
    exact (h.of_hooks hsame).hookIn (issuersOn_of_none hnew).symm hfirst
  | registered hr hchain hrecords =>
    rw [hchain, hrecords]
    exact h.hookIn (issuersOn_of_get? hr).symm rfl
  | entered hr _ hwrote hchain hrecords =>
    obtain ⟨b, ps, -, -, rfl⟩ := hwrote
    rw [hrecords]
    exact (h.of_hooks hchain.hooks).insert hr rfl
  | released hr _ hclosed hchain hrecords =>
    have hhooks : _ = w.chain.hooks := hclosed.hooks
    rw [hchain, hrecords]
    exact (h.of_hooks hhooks).dropHooks hr

end Registrations

end Registered

/-! ## Runs -/

section Runs

variable {pool router feeRecipient holder owner : Address} {settings : Settings}
variable {requests : List Request} {w : World}

/-- Along a run in which nobody else registers the module's hook or takes it off, hooks and records
agree. -/
theorem World.runs_registrations (hown : ∀ q ∈ requests, q.hook? ≠ some holder)
    (h : World.runs requests (.blank pool router feeRecipient holder owner settings) = some w) :
    w.Orderly Set.univ ∧ w.desk.address = holder ∧
      Registrations holder w.desk.records w.chain := by
  refine World.runs_induction (I := fun v => v.Orderly Set.univ ∧ v.desk.address = holder ∧
    Registrations holder v.desk.records v.chain) ?_ ?_ h
  · exact ⟨World.orderly_blank _ _ _ _ _ _ _, rfl, .empty holder rfl⟩
  · rintro r hr v v' ⟨hv, rfl, hagree⟩ hafter
    refine ⟨Request.after_orderly hv hafter, Request.after_address hv hafter, ?_⟩
    cases Request.effect hv hafter with
    | idle hchain hrecords =>
      rw [hchain, hrecords]
      exact hagree
    | chain hq hrecords =>
      rw [hrecords]
      exact hagree.requested hq (hown _ hr)
    | desk hoperation => exact hagree.operated hoperation

/-- **Hooks and records agree** in every run in which the module's hook is registered and taken off
by nobody but the desk. The desk is on the list of an orchestrator for a basket if and only if the
basket has a record that names the orchestrator, and then once. A record names nobody twice and is
never without anybody; its market goes by the name of its parameters, and lends one asset against
another. -/
theorem World.hooks_iff_issuers (hown : ∀ q ∈ requests, q.hook? ≠ some holder)
    (h : World.runs requests (.blank pool router feeRecipient holder owner settings) = some w) :
    (∀ orchestrator basket, (holder ∈ w.chain.hooksOf orchestrator basket ↔
        ∃ r, w.desk.records.get? basket = some r ∧ orchestrator ∈ r.issuers) ∧
      (w.chain.hooksOf orchestrator basket).count holder ≤ 1) ∧
    ∀ basket r, w.desk.records.get? basket = some r → r.issuers.Nodup ∧ r.issuers ≠ [] ∧
      r.market = r.params.id ∧ r.params.loanAsset ≠ r.params.collateralAsset := by
  obtain ⟨hw, -, hagree⟩ := World.runs_registrations hown h
  refine ⟨fun o basket => ⟨?_, ?_⟩, fun basket r hr => ?_⟩
  · rw [← List.count_pos_iff, hagree.count, List.count_pos_iff, issuersOn]
    cases w.desk.records.get? basket with
    | none => simp
    | some r => simp
  · rw [hagree.count]
    exact List.nodup_iff_count_le_one.1 (hagree.nodup basket) o
  · have hsound := hw.records basket r hr
    have hnodup := hagree.nodup basket
    rw [issuersOn_of_get? hr] at hnodup
    exact ⟨hnodup, hagree.nonempty basket r hr, hsound.market, hsound.distinct.symm⟩

end Runs

open Deployment in
/-- The requests after which the basket has been enrolled, registered once more, let go, and
enrolled again, while a hook of the manager's has come and gone. -/
def reenrolling : List Request :=
  furnishing.map .chain ++ [.desk (.basket Deployment.basket (.setAllowed owner true)),
    .desk (.basket Deployment.basket (.enrol manager params)),
    .chain (.basket Deployment.basket (.registerHook orchestrator manager)),
    .desk (.basket Deployment.basket (.registerIssuer manager orchestrator)),
    .desk (.basket Deployment.basket (.letGo Deployment.basket)),
    .chain (.basket Deployment.basket (.addModule Deployment.holder)),
    .desk (.basket Deployment.basket (.enrol manager params)),
    .chain (.basket Deployment.basket (.unregisterHook orchestrator manager))]

open Deployment in
/-- So it is where the basket of the reference deployment has been enrolled twice. -/
theorem World.hooks_iff_issuers_of_reenrolling : ∃ w r,
    (∀ q ∈ reenrolling, q.hook? ≠ some Deployment.holder) ∧
    World.runs reenrolling (start .usual) = some w ∧
    w.desk.records.get? Deployment.basket = some r ∧ orchestrator ∈ r.issuers ∧
    Deployment.holder ∈ w.chain.hooksOf orchestrator Deployment.basket ∧
    (w.chain.hooksOf orchestrator Deployment.basket).count Deployment.holder ≤ 1 ∧
    r.issuers.Nodup ∧ r.market = r.params.id ∧ r.params.loanAsset ≠ r.params.collateralAsset := by
  have hown : ∀ q ∈ reenrolling, q.hook? ≠ some Deployment.holder := by decide +kernel
  have hruns : ((World.runs reenrolling (start .usual)).bind fun w =>
      (w.desk.records.get? Deployment.basket).map fun r =>
        decide (orchestrator ∈ r.issuers)) = some true := by decide +kernel
  obtain ⟨w, hw, hruns⟩ := Option.bind_eq_some_iff.1 hruns
  obtain ⟨r, hr, hissuer⟩ := Option.map_eq_some_iff.1 hruns
  have hissuer : orchestrator ∈ r.issuers := of_decide_eq_true hissuer
  obtain ⟨hhooks, hrecords⟩ := World.hooks_iff_issuers hown hw
  obtain ⟨hiff, hcount⟩ := hhooks orchestrator Deployment.basket
  obtain ⟨hnodup, -, hmarket, hdistinct⟩ := hrecords Deployment.basket r hr
  exact ⟨w, r, hown, hw, hr, hissuer, hiff.2 ⟨r, hr, hissuer⟩, hcount, hnodup, hmarket, hdistinct⟩

end Leverage

end LeveredBasket
