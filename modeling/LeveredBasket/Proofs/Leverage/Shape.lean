/-
The shape of a basket's ledger.

Once a basket has been created, let nobody but the desk change its positions. Then
each position of the basket fits what the desk has on record for it (`Position.Fits`):
what the desk accounts for is collateral that has been entered or a debt, what the
basket itself has is not below zero, and collateral that has been entered is not among
it.

To write a position of a tidy list changes one place (`Positions.Written.mem_cases`).
So of each operation there are two things to see: that what it writes fits the record
which it leaves, and that what it does not write over fits that record too, where it is
not the record of before (`Position.Fits.entering`, `Position.Fits.closed`).
-/
import LeveredBasket.Proofs.Leverage.Grounding
import LeveredBasket.Proofs.Leverage.Isolation
import LeveredBasket.Proofs.Leverage.Journal

set_option autoImplicit false

namespace LeveredBasket

open Leverage (Record)

/-- Of every position of the basket `P` holds. -/
def Chain.EveryPosition (basket : Address) (P : Position → Prop) (c : Chain) : Prop :=
  ∀ p ∈ c.positions basket, P p

/-- **A position fits** what a desk has on record for the basket. -/
structure Position.Fits (holder : Address) (r? : Option Record) (p : Position) : Prop where
  /-- The desk's own position is collateral that has been entered, or a debt. -/
  external : p.isExternalOf holder = true → ∃ r, r? = some r ∧
    (p.component = r.params.collateralAsset ∧ r.entered = true ∧ 0 < p.unit.value.toInt ∨
      p.component = r.params.loanAsset ∧ p.unit.value.toInt < 0)
  /-- A position of the basket's own is nobody else's, and not below zero. -/
  default : p.kind = .default → p.holder = none ∧ 0 ≤ p.unit.value.toInt
  /-- It is not of collateral that has been entered. -/
  entered : p.kind = .default → ∀ r, r? = some r → r.entered = true →
    p.component ≠ r.params.collateralAsset

/-- **A list of positions is in shape** for a desk that has this on record for the basket: each
position fits and is not zero, and the desk has no two of one component. -/
structure Positions.InShape (holder : Address) (r? : Option Record) (ps : List Position) :
    Prop where
  fits : ∀ p ∈ ps, p.Fits holder r?
  units : ∀ p ∈ ps, p.unit.isZero = false
  once : ∀ component,
    ps.countP (fun p => p.isExternalOf holder && p.component = component) ≤ 1

namespace Leverage

/-- **A request leaves the positions of a basket that is there as they are**, or is made to the
desk. -/
def Request.LeavesPositions (basket : Address) (w : World) : Request → Prop
  | chain q => (w.chain.baskets.get? basket).isSome →
    ∀ c ∈ q.after w.chain, c.positions basket = w.chain.positions basket
  | desk _ => True

instance (basket : Address) (w : World) : (r : Request) → Decidable (r.LeavesPositions basket w)
  | .chain _ => inferInstanceAs (Decidable (_ → _))
  | .desk _ => isTrue trivial

/-- Every position of the basket fits what the desk has on record. -/
def World.PositionsFit (basket : Address) (w : World) : Prop :=
  w.chain.EveryPosition basket (Position.Fits w.desk.address (w.desk.records.get? basket))

end Leverage

/-! ## Writing -/

namespace Positions

variable {p q : Position} {ps ps' : List Position}

/-- **After a write** there are the position written, unless it is zero, and those of other
places. -/
theorem Written.mem_cases (h : Written q ps ps') (hps : Tidy ps) (hp : p ∈ ps') :
    (p = q ∧ p.unit.isZero = false) ∨ (p ∈ ps ∧ p.place ≠ q.place) := by
  have hnonzero := (h.tidy hps).units p hp
  have hunit := h.unit hps p
  rw [unit_of_mem (h.tidy hps) hp rfl] at hunit
  by_cases hplace : p.place = q.place
  · rw [if_pos hplace] at hunit
    exact .inl ⟨Position.ext_place hplace hunit, hnonzero⟩
  · rw [if_neg hplace] at hunit
    by_cases hold : ∃ x ∈ ps, x.place = p.place
    · obtain ⟨x, hx, hxp⟩ := hold
      rw [unit_of_mem hps hx hxp] at hunit
      obtain rfl : p = x := Position.ext_place hxp.symm hunit
      exact .inr ⟨hx, hplace⟩
    · rw [unit_of_not_mem fun x hx hxp => hold ⟨x, hx, hxp⟩] at hunit
      rw [hunit] at hnonzero
      cases hnonzero

/-- In a tidy list a module has one position of a component, or none. -/
theorem Tidy.countP_external (h : Tidy ps) (holder component : Address) :
    ps.countP (fun p => p.isExternalOf holder && p.component = component) ≤ 1 := by
  have hcount := List.nodup_iff_count_le_one.1 h.places (component, .external, some holder)
  rw [List.count_eq_countP, List.countP_map] at hcount
  refine le_trans (le_of_eq (List.countP_congr fun p _ => ?_)) hcount
  simp [Position.isExternalOf, Position.place, and_comm]

end Positions

namespace Chain

variable {basket : Address} {P Q : Position → Prop} {c c' : Chain} {q : Position}

theorem positions_of_get? {b : Basket} (hb : c.baskets.get? basket = some b) :
    c.positions basket = b.positions := by
  rw [positions, hb]

/-- The same basket has the same positions. -/
theorem positions_eq (h : c'.baskets.get? basket = c.baskets.get? basket) :
    c'.positions basket = c.positions basket := by
  rw [positions, positions, h]

theorem EveryPosition.of_eq (h : c.EveryPosition basket P)
    (hsame : c'.positions basket = c.positions basket) : c'.EveryPosition basket P := by
  rw [EveryPosition, hsame]
  exact h

theorem EveryPosition.imp (h : c.EveryPosition basket P) (hPQ : ∀ p, P p → Q p) :
    c.EveryPosition basket Q := fun p hp => hPQ p (h p hp)

/-- **Of every position `Q` holds after a write** if it holds of the position written, and of what
is in other places. -/
theorem EveryPosition.wrote (h : c.EveryPosition basket P) (hc : c.Tidy)
    (hwrote : Wrote basket q c c') (hq : q.unit.isZero = false → Q q)
    (hPQ : ∀ p, P p → p.place ≠ q.place → Q p) : c'.EveryPosition basket Q := by
  obtain ⟨b, qs, hb, hwritten, rfl⟩ := hwrote
  intro p hp
  rw [positions_of_get? (c.baskets.get?_insert_self basket _)] at hp
  obtain ⟨rfl, hunit⟩ | ⟨hp, hplace⟩ := hwritten.mem_cases (hc basket b hb) hp
  · exact hq hunit
  · rw [← positions_of_get? hb] at hp
    exact hPQ p (h p hp) hplace

/-- What is written as zero is not there. -/
theorem EveryPosition.erased (h : c.EveryPosition basket P) (hc : c.Tidy)
    (hwrote : Wrote basket q c c') (hq : q.unit = .zero)
    (hPQ : ∀ p, P p → p.place ≠ q.place → Q p) : c'.EveryPosition basket Q := by
  refine h.wrote hc hwrote (fun hunit => ?_) hPQ
  rw [hq] at hunit
  cases hunit

end Chain

/-! ## What fits -/

section Fits

variable {holder basket : Address} {r r' : Record} {r? : Option Record} {p : Position}
variable {c c' : Chain}

namespace Position.Fits

/-- What the basket itself has fits where nothing is on record. -/
theorem ofDefault {component : Address} {unit : PositionUnit} (hunit : 0 ≤ unit.value.toInt) :
    (Position.ofDefault component unit).Fits holder none := by
  refine ⟨fun h => ?_, fun _ => ⟨rfl, hunit⟩, fun _ r hr => ?_⟩
  · cases h
  · cases hr

/-- Where the desk had nothing on record, it has no position, and the basket is free to have any of
its own until collateral is entered. -/
theorem enrolled (h : p.Fits holder none) (hentered : r.entered = false) :
    p.Fits holder (some r) := by
  refine ⟨fun hp => ?_, h.default, fun _ r' hr' hentered' => ?_⟩
  · obtain ⟨r', hr', -⟩ := h.external hp
    cases hr'
  · obtain rfl := Option.some.inj hr'
    rw [hentered] at hentered'
    cases hentered'

/-- The orchestrators on record are of no concern to positions. -/
theorem withIssuer (h : p.Fits holder (some r)) (issuer : Address) :
    p.Fits holder (some (r.withIssuer issuer)) := by
  refine ⟨fun hp => ?_, h.default, fun hp r' hr' => ?_⟩
  · obtain ⟨r', hr', hcases⟩ := h.external hp
    obtain rfl := Option.some.inj hr'
    exact ⟨_, rfl, hcases⟩
  · obtain rfl := Option.some.inj hr'
    exact h.entered hp r rfl

/-- What fits before collateral is entered fits after, if it is not collateral that the basket
itself has. -/
theorem entering (h : p.Fits holder (some r))
    (hplace : p.place ≠ (r.params.collateralAsset, .default, none)) :
    p.Fits holder (some { r with entered := true }) := by
  refine ⟨fun hp => ?_, h.default, fun hp r' hr' _ hcomponent => ?_⟩
  · obtain ⟨r', hr', hcases⟩ := h.external hp
    obtain rfl := Option.some.inj hr'
    exact ⟨_, rfl, hcases.imp_left fun hcollateral => ⟨hcollateral.1, rfl, hcollateral.2.2⟩⟩
  · obtain rfl := Option.some.inj hr'
    have hkind : p.kind = .default := hp
    refine hplace ?_
    rw [Position.place, hcomponent, hkind, (h.default hp).1]

/-- **What fits once the books are closed**: all but what the desk has a unit in. -/
theorem closed (h : p.Fits holder (some r))
    (hdebt : p.place ≠ (r.params.loanAsset, .external, some holder))
    (hholding : r.entered = true →
      p.place ≠ (r.params.collateralAsset, .external, some holder)) : p.Fits holder none := by
  refine ⟨fun hp => ?_, h.default, fun _ r' hr' => ?_⟩
  · have hplace : p.place = (p.component, .external, some holder) := by
      simp only [Position.isExternalOf, Bool.and_eq_true, decide_eq_true_eq] at hp
      rw [Position.place, hp.1, hp.2]
    obtain ⟨r', hr', ⟨hcomponent, hentered, -⟩ | ⟨hcomponent, -⟩⟩ := h.external hp
    · obtain rfl := Option.some.inj hr'
      exact absurd (hcomponent ▸ hplace) (hholding hentered)
    · obtain rfl := Option.some.inj hr'
      exact absurd (hcomponent ▸ hplace) hdebt
  · cases hr'

end Position.Fits

/-- **What may be written fits**, where it is written. -/
theorem Leverage.Record.Allows.fits (h : r.Allows holder p)
    (hdistinct : r.params.collateralAsset ≠ r.params.loanAsset) (hunit : p.unit.isZero = false) :
    p.Fits holder (some r) := by
  have hne : p.unit.value.toInt ≠ 0 := of_decide_eq_false hunit
  cases h with
  | debt hle =>
    refine ⟨fun _ => ⟨r, rfl, .inr ⟨rfl, lt_of_le_of_ne hle hne⟩⟩, fun hp => ?_, fun hp => ?_⟩ <;>
      cases hp
  | collateral hentered hle =>
    refine ⟨fun _ => ⟨r, rfl, .inl ⟨rfl, hentered, lt_of_le_of_ne hle hne.symm⟩⟩, fun hp => ?_,
      fun hp => ?_⟩ <;> cases hp
  | residual hle =>
    refine ⟨fun hp => ?_, fun _ => ⟨rfl, hle⟩, fun _ r' hr' _ => ?_⟩
    · cases hp
    · obtain rfl := Option.some.inj hr'
      exact hdistinct.symm

/-- All positions that a new basket has fit where nothing is on record. -/
theorem Positions.Funded.fits {ps : List Position} (h : Funded ps) :
    Tidy ps ∧ ∀ p ∈ ps, p.Fits holder none := by
  induction h with
  | nil => exact ⟨tidy_nil, fun p hp => absurd hp List.not_mem_nil⟩
  | put hunit _ ih =>
    obtain ⟨htidy, hfits⟩ := ih
    refine ⟨htidy.write _, fun p hp => ?_⟩
    obtain ⟨hp, -⟩ | ⟨rfl, -⟩ := (mem_write htidy).1 hp
    · exact hfits p hp
    · exact .ofDefault hunit

namespace Chain

/-- **Bookkeeping leaves positions that fit.** -/
theorem Bookkept.fits (h : Bookkept holder basket r c c') (hc : c.Tidy)
    (hdistinct : r.params.collateralAsset ≠ r.params.loanAsset)
    (hfits : c.EveryPosition basket (Position.Fits holder (some r))) :
    c'.EveryPosition basket (Position.Fits holder (some r)) := by
  have hkept : c'.Tidy ∧ c'.EveryPosition basket (Position.Fits holder (some r)) := by
    refine h.keeps (I := fun d => d.Tidy ∧ d.EveryPosition basket (Position.Fits holder (some r)))
      ⟨hc, hfits⟩ (fun _ _ hd => hd) ?_
    rintro d d' p hp hwrote ⟨hd, hdfits⟩
    refine ⟨hd.wrote hwrote, hdfits.wrote hd hwrote (hp.fits hdistinct) ?_⟩
    exact fun _ hq _ => hq
  exact hkept.2

/-- **Closed books** are none of the desk's. -/
theorem Closed.fits (h : Closed holder basket r c c') (hc : c.Tidy)
    (hfits : c.EveryPosition basket (Position.Fits holder (some r))) :
    c'.EveryPosition basket (Position.Fits holder none) := by
  have hholding {c₁ c₂ : Chain}
      (hdebt : Wrote basket (.ofExternal r.params.loanAsset holder .zero) c c₁)
      (hholding : Wrote basket (.ofExternal r.params.collateralAsset holder .zero) c₁ c₂) :
      c₂.EveryPosition basket (Position.Fits holder none) := by
    have hpaid : c₁.EveryPosition basket fun p => p.Fits holder (some r) ∧
        p.place ≠ (r.params.loanAsset, .external, some holder) :=
      hfits.erased hc hdebt rfl fun _ hp hplace => ⟨hp, hplace⟩
    refine hpaid.erased (hc.wrote hdebt) hholding rfl fun _ hp hplace => ?_
    exact hp.1.closed hp.2 fun _ => hplace
  cases h with
  | debt hentered hdebt =>
    refine hfits.erased hc hdebt rfl fun p hp hplace => hp.closed hplace fun hentered' => ?_
    rw [hentered] at hentered'
    cases hentered'
  | holding _ hdebt hcollateral => exact hholding hdebt hcollateral
  | restored _ hdebt hcollateral hunit hrestored =>
    refine (hholding hdebt hcollateral).wrote ((hc.wrote hdebt).wrote hcollateral) hrestored ?_ ?_
    · exact fun _ => .ofDefault hunit
    · exact fun _ hp _ => hp

end Chain

end Fits

namespace Leverage

/-! ## Requests -/

section Requests

variable {basket z : Address} {w w' : World}

/-- **An operation on the basket leaves positions that fit.** -/
theorem World.PositionsFit.operated {operation : BasketOperation} (h : w.PositionsFit basket)
    (hw : w.Orderly Set.univ) (haddress : w'.desk.address = w.desk.address)
    (heffect : operation.Effect basket w w') : w'.PositionsFit basket := by
  unfold World.PositionsFit at h ⊢
  rw [haddress]
  cases heffect with
  | listed hchain hrecords =>
    rw [hchain, hrecords]
    exact h
  | kept _ hr hchain hrecords =>
    rw [hr] at h
    rw [hrecords, hr]
    exact hchain.fits hw.tidy (hw.records basket _ hr).distinct h
  | @enrolled _ issuer params b hnew hb _ hchain hrecords =>
    rw [hnew] at h
    have hsame : w'.chain.positions basket = w.chain.positions basket := by
      have hset : w'.chain.baskets.get? basket =
          some (b.setStatus w.desk.address .initialized) := by
        rw [hchain]
        exact w.chain.baskets.get?_insert_self basket _
      rw [Chain.positions_of_get? hb, Chain.positions_of_get? hset]
      rfl
    rw [hrecords, FiniteMap.get?_insert_self]
    exact (h.of_eq hsame).imp fun p hp => hp.enrolled rfl
  | registered hr hchain hrecords =>
    rw [hr] at h
    rw [hrecords, FiniteMap.get?_insert_self, hchain]
    exact h.imp fun p hp => hp.withIssuer _
  | @entered _ r bank c hr _ hwrote hchain hrecords =>
    rw [hr] at h
    have htidy : ({ w.chain with toBank := bank } : Chain).Tidy := hw.tidy
    have hdistinct := (hw.records basket r hr).distinct
    rw [hrecords, FiniteMap.get?_insert_self]
    refine hchain.fits (htidy.wrote hwrote) hdistinct ?_
    have hfits : ({ w.chain with toBank := bank } : Chain).EveryPosition basket
        (Position.Fits w.desk.address (some r)) := h
    exact hfits.erased htidy hwrote rfl fun p hp hplace => hp.entering hplace
  | @released _ r bank c hr _ hclosed hchain hrecords =>
    rw [hr] at h
    have htidy : ({ w.chain with toBank := bank } : Chain).Tidy := hw.tidy
    have hfits : c.EveryPosition basket (Position.Fits w.desk.address none) :=
      hclosed.fits htidy h
    have hsame : w'.chain.positions basket = c.positions basket := by
      refine Chain.positions_eq ?_
      rw [hchain, (c.dropHooks_same basket w.desk.address r.issuers).2]
    rw [hrecords, FiniteMap.get?_erase_self]
    exact hfits.of_eq hsame

/-- An operation on another basket is of no concern. -/
theorem World.PositionsFit.others (h : w.PositionsFit z)
    (haddress : w'.desk.address = w.desk.address) (hsame : w.SameFor z w') : w'.PositionsFit z := by
  unfold World.PositionsFit at h ⊢
  rw [haddress, hsame.record]
  exact h.of_eq (Chain.positions_eq hsame.basket)

/-- A basket that a request to the chain has created has positions that fit where nothing is on
record. -/
theorem fits_of_created {q : ChainRequest} {c c' : Chain} (h : q.Effect c c')
    (hnone : c.baskets.get? z = none) (holder : Address) :
    c'.EveryPosition z (Position.Fits holder none) := by
  have hnowhere (hsame : c'.baskets.get? z = c.baskets.get? z) :
      c'.EveryPosition z (Position.Fits holder none) := by
    intro p hp
    rw [Chain.positions, hsame, hnone] at hp
    cases hp
  have hother {address : Address} {b : Basket} (hb : c.baskets.get? address = some b)
      (b' : Basket) : (c.setBasket address b').baskets.get? z = c.baskets.get? z := by
    refine c.baskets.get?_insert_of_ne ?_ b'
    rintro rfl
    rw [hb] at hnone
    cases hnone
  cases h with
  | aside hbaskets _ =>
    refine hnowhere ?_
    rw [hbaskets]
  | @created address _ _ _ b hfunded hbaskets _ =>
    by_cases hz : z = address
    · have hb : c'.baskets.get? z = some b := by
        rw [hbaskets, hz, FiniteMap.get?_insert_self]
      intro p hp
      rw [Chain.positions_of_get? hb] at hp
      exact hfunded.fits.2 p hp
    · refine hnowhere ?_
      rw [hbaskets, FiniteMap.get?_insert_of_ne _ hz]
  | rewritten hb _ hchain =>
    rw [hchain] at hnowhere ⊢
    exact hnowhere (hother hb _)
  | wrote hwrote =>
    obtain ⟨b, ps, hb, -, rfl⟩ := hwrote
    exact hnowhere (hother hb _)
  | hooked hchain =>
    subst hchain
    exact hnowhere rfl
  | dropped hchain =>
    subst hchain
    refine hnowhere ?_
    unfold Chain.dropHook
    split <;> rfl

/-- **Every request leaves positions that fit**, if it is made to the desk or leaves alone what is
there. -/
theorem Request.after_positionsFit {r : Request} (h : w.PositionsFit z) (hw : w.Orderly Set.univ)
    (hgrounded : Grounded (fun _ => True) w.desk.records w.chain)
    (hr : r.LeavesPositions z w) (hafter : r.after w = some w') : w'.PositionsFit z := by
  have haddress := Request.after_address hw hafter
  cases r with
  | chain q =>
    obtain ⟨c, hc, rfl⟩ := Option.map_eq_some_iff.1 hafter
    cases hold : w.chain.baskets.get? z with
    | some b => exact h.of_eq (hr (Option.isSome_of_eq_some hold) c hc)
    | none =>
      -- what is on record is of baskets that are there
      have hfree : w.desk.records.get? z = none := by
        refine Option.eq_none_iff_forall_ne_some.2 fun record hrecord => ?_
        have hthere := hgrounded.basket z record hrecord
        rw [hold] at hthere
        cases hthere
      unfold World.PositionsFit
      rw [hfree]
      exact fits_of_created (ChainRequest.effect hc) hold _
  | desk q =>
    cases Request.effect hw hafter with
    | idle hchain hrecords =>
      unfold World.PositionsFit at h ⊢
      rw [haddress, hchain, hrecords]
      exact h
    | @desk address operation heffect =>
      by_cases hz : z = address
      · subst hz
        exact h.operated hw haddress heffect
      · exact h.others haddress (heffect.others hz)

end Requests

/-! ## Runs -/

section Runs

variable {pool router feeRecipient holder owner basket : Address} {settings : Settings}
variable {requests : List Request} {w : World}

theorem World.runs_positionsFit
    (hleaves : World.Along (Request.LeavesPositions basket) requests
      (.blank pool router feeRecipient holder owner settings))
    (h : World.runs requests (.blank pool router feeRecipient holder owner settings) = some w) :
    w.Orderly Set.univ ∧ w.desk.address = holder ∧
      Grounded (fun _ => True) w.desk.records w.chain ∧ w.PositionsFit basket := by
  refine World.along_induction (I := fun v => v.Orderly Set.univ ∧ v.desk.address = holder ∧
    Grounded (fun _ => True) v.desk.records v.chain ∧ v.PositionsFit basket) ?_ hleaves ?_ h
  · have hnone : World.runs [] (.blank pool router feeRecipient holder owner settings) =
        some (.blank pool router feeRecipient holder owner settings) := rfl
    refine ⟨World.orderly_blank _ _ _ _ _ _ _, rfl, ?_, fun p hp => ?_⟩
    · exact World.runs_grounded (fun _ _ _ => trivial) hnone
    · cases hp
  · rintro r v v' hr ⟨hv, rfl, hgrounded, hfits⟩ hafter
    refine ⟨Request.after_orderly hv hafter, Request.after_address hv hafter, ?_, ?_⟩
    · exact Request.after_grounded hv hgrounded (fun _ _ _ => trivial) hafter
    · exact Request.after_positionsFit hfits hv hgrounded hr hafter

/-- **The ledger is in shape** in every run in which nobody but the desk changes the positions of a
basket once it is there. Each position fits what the desk has on record for the basket: the desk has
none if there is no record, and otherwise no other than one of the collateral, above zero, if it has
been entered, and one of the loan asset, below zero. Of collateral that has been entered the basket
itself has none, it has nothing below zero, and nobody has a position of unit zero. -/
theorem World.positions_inShape
    (hleaves : World.Along (Request.LeavesPositions basket) requests
      (.blank pool router feeRecipient holder owner settings))
    (h : World.runs requests (.blank pool router feeRecipient holder owner settings) = some w) :
    Positions.InShape holder (w.desk.records.get? basket) (w.chain.positions basket) := by
  obtain ⟨hw, rfl, -, hfits⟩ := World.runs_positionsFit hleaves h
  have htidy : Positions.Tidy (w.chain.positions basket) := by
    cases hb : w.chain.baskets.get? basket with
    | some b =>
      rw [Chain.positions_of_get? hb]
      exact hw.tidy basket b hb
    | none =>
      rw [Chain.positions, hb]
      exact Positions.tidy_nil
  exact ⟨hfits, htidy.units, htidy.countP_external _⟩

end Runs

open Deployment in
/-- So it is where the basket of the reference deployment is levered, and the desk has a holding and
a debt on its ledger. -/
theorem World.positions_inShape_of_levering : ∃ w,
    World.Along (Request.LeavesPositions Deployment.basket) levering (start .usual) ∧
    World.runs levering (start .usual) = some w ∧
    (w.chain.positions Deployment.basket).countP (·.isExternalOf Deployment.holder) = 2 ∧
    Positions.InShape Deployment.holder (w.desk.records.get? Deployment.basket)
      (w.chain.positions Deployment.basket) := by
  have hleaves : World.Along (Request.LeavesPositions Deployment.basket) levering
      (start .usual) := by decide +kernel
  have hruns : ((World.runs levering (start .usual)).map fun w =>
      (w.chain.positions Deployment.basket).countP (·.isExternalOf Deployment.holder)) =
        some 2 := by decide +kernel
  obtain ⟨w, hw, htwo⟩ := Option.map_eq_some_iff.1 hruns
  exact ⟨w, hleaves, hw, htwo, World.positions_inShape hleaves hw⟩

end Leverage

end LeveredBasket
