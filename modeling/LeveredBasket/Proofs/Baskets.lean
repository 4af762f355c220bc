/-
What writing (`BasketToken::upsert`) does to a basket's positions, and requests to
baskets.

A list of positions is read as a table: a place has a unit. This reading is
right as long as no place occurs twice, and tells whether there is a position as
long as none has unit zero (`Positions.Tidy`). Then a write sets the unit of its
own place and of no other (`Positions.unit_write`), wherever in the list it puts
the position. Baskets start with no positions and only ever write them, so every
list on a chain is tidy (`Chain.Tidy`).

A basket's calls on the chain have one statement each about how they end.
-/
import LeveredBasket.Chain
import LeveredBasket.Proofs.Token
import Mathlib.Data.List.Nodup

set_option autoImplicit false

namespace LeveredBasket

/-! ## Places -/

namespace Position

/-- Where a position is held, and of what. -/
def place (p : Position) : Address × PositionKind × Option Address :=
  (p.component, p.kind, p.holder)

theorem samePlace_iff {p q : Position} : p.samePlace q = true ↔ p.place = q.place := by
  simp [samePlace, place, and_assoc]

/-- A position is a place and a unit. -/
theorem ext_place {p q : Position} (hplace : p.place = q.place) (hunit : p.unit = q.unit) :
    p = q := by
  cases p
  cases q
  simp_all [place]

@[simp]
theorem place_ofDefault (component : Address) (unit : PositionUnit) :
    (ofDefault component unit).place = (component, .default, none) := rfl

@[simp]
theorem place_ofExternal (component holder : Address) (unit : PositionUnit) :
    (ofExternal component holder unit).place = (component, .external, some holder) := rfl

end Position

/-! ## Tidy lists -/

namespace Positions

variable {p q : Position} {ps : List Position}

/-- **No place occurs twice, and no unit is zero.** -/
structure Tidy (ps : List Position) : Prop where
  places : (ps.map Position.place).Nodup
  units : ∀ p ∈ ps, p.unit.isZero = false

theorem tidy_nil : Tidy [] := ⟨List.nodup_nil, fun _ hp => absurd hp List.not_mem_nil⟩

theorem Tidy.tail (h : Tidy (p :: ps)) : Tidy ps :=
  ⟨(List.nodup_cons.1 h.places).2, fun q hq => h.units q (List.mem_cons_of_mem p hq)⟩

theorem any_samePlace : ps.any (·.samePlace p) = true ↔ p.place ∈ ps.map Position.place := by
  simp [Position.samePlace_iff]

/-- In a tidy list there is at most one position to a place. -/
theorem Tidy.eq_of_place (h : Tidy ps) (hp : p ∈ ps) (hq : q ∈ ps) (hplace : p.place = q.place) :
    p = q :=
  List.inj_on_of_nodup_map h.places hp hq hplace

/-- The unit of a place is that of the position which is there. -/
theorem unit_of_mem (h : Tidy ps) (hq : q ∈ ps) (hplace : q.place = p.place) :
    unit p ps = q.unit := by
  unfold unit
  cases hfind : ps.find? (·.samePlace p) with
  | none =>
    have hnone := List.find?_eq_none.1 hfind q hq
    exact absurd (Position.samePlace_iff.2 hplace) hnone
  | some x =>
    have hx : x.place = p.place :=
      Position.samePlace_iff.1 (by simpa using List.find?_some hfind)
    rw [h.eq_of_place (List.mem_of_find?_eq_some hfind) hq (hx.trans hplace.symm)]
    rfl

/-- Where there is no position the unit is zero. -/
theorem unit_of_not_mem (h : ∀ q ∈ ps, q.place ≠ p.place) : unit p ps = .zero := by
  have hnone : ps.find? (·.samePlace p) = none := List.find?_eq_none.2 fun q hq hsame =>
    h q hq (Position.samePlace_iff.1 hsame)
  simp [unit, hnone]

/-! ## What a write puts where -/

theorem lastIndex?_lt {component : Address} {last : Nat} (h : lastIndex? component ps = some last) :
    last < ps.length := by
  induction ps generalizing last with
  | nil => cases h
  | cons q rest ih =>
    unfold lastIndex? at h
    split at h
    case h_1 before hbefore =>
      obtain rfl : before + 1 = last := Option.some.inj h
      exact Nat.succ_lt_succ (ih hbefore)
    case h_2 =>
      split at h
      · obtain rfl : 0 = last := Option.some.inj h
        exact Nat.succ_pos _
      · cases h

theorem insertIndex_le (p : Position) (ps : List Position) : insertIndex p ps ≤ ps.length := by
  unfold insertIndex
  split
  case h_1 => exact Nat.le_refl _
  case h_2 last hlast =>
    have hlt := lastIndex?_lt hlast
    split <;> omega

/-- A new position is put somewhere, and the others stay as they are. -/
theorem insertNew_perm (p : Position) (ps : List Position) : (insertNew p ps).Perm (p :: ps) :=
  List.perm_insertIdx p ps (insertIndex_le p ps)

/-- Erasing a place leaves the positions of the others. -/
theorem mem_eraseP (h : Tidy ps) :
    q ∈ ps.eraseP (·.samePlace p) ↔ q ∈ ps ∧ q.place ≠ p.place := by
  induction ps with
  | nil => simp
  | cons x rest ih =>
    have hx := (List.nodup_cons.1 h.places).1
    have hrest := h.tail
    by_cases hxp : x.place = p.place
    · have hfree : q ∈ rest → q.place ≠ p.place := fun hq hqp =>
        hx (List.mem_map.2 ⟨q, hq, hqp.trans hxp.symm⟩)
      have hsame : x.samePlace p = true := Position.samePlace_iff.2 hxp
      simp only [List.eraseP_cons, hsame, cond_true, List.mem_cons]
      constructor
      · exact fun hq => ⟨.inr hq, hfree hq⟩
      · rintro ⟨rfl | hq, hqp⟩
        · exact absurd hxp hqp
        · exact hq
    · have hother : x.samePlace p = false := by simpa using mt Position.samePlace_iff.1 hxp
      simp only [List.eraseP_cons, hother, cond_false, List.mem_cons, ih hrest]
      constructor
      · rintro (rfl | ⟨hq, hqp⟩)
        · exact ⟨.inl rfl, hxp⟩
        · exact ⟨.inr hq, hqp⟩
      · rintro ⟨rfl | hq, hqp⟩
        · exact .inl rfl
        · exact .inr ⟨hq, hqp⟩

/-- Writing over a place that is there leaves the positions of the others, and the one written. -/
theorem mem_overwrite (hp : ∃ x ∈ ps, x.place = p.place) :
    (q ∈ ps.map fun x => if x.samePlace p then { x with unit := p.unit } else x) ↔
      (q ∈ ps ∧ q.place ≠ p.place) ∨ q = p := by
  rw [List.mem_map]
  constructor
  · rintro ⟨y, hy, rfl⟩
    by_cases hyp : y.place = p.place
    · rw [if_pos (Position.samePlace_iff.2 hyp)]
      exact .inr (Position.ext_place hyp rfl)
    · rw [if_neg (mt Position.samePlace_iff.1 hyp)]
      exact .inl ⟨hy, hyp⟩
  · rintro (⟨hq, hqp⟩ | rfl)
    · exact ⟨q, hq, if_neg (mt Position.samePlace_iff.1 hqp)⟩
    · obtain ⟨x, hx, hxq⟩ := hp
      refine ⟨x, hx, ?_⟩
      rw [if_pos (Position.samePlace_iff.2 hxq)]
      exact Position.ext_place hxq rfl

/-- In a tidy list, the positions after a write are those of other places and the one written,
unless its unit is zero. -/
theorem mem_write (h : Tidy ps) :
    q ∈ write p ps ↔ (q ∈ ps ∧ q.place ≠ p.place) ∨ (q = p ∧ p.unit.isZero = false) := by
  unfold write
  by_cases hany : ps.any (·.samePlace p) = true
  · rw [if_pos hany]
    cases hzero : p.unit.isZero with
    | true => simp [mem_eraseP h]
    | false =>
      have hp : ∃ x ∈ ps, x.place = p.place := List.mem_map.1 (any_samePlace.1 hany)
      simpa using mem_overwrite hp
  · rw [if_neg hany]
    have hfree : q ∈ ps → q.place ≠ p.place := fun hq hqp =>
      hany (any_samePlace.2 (List.mem_map.2 ⟨q, hq, hqp⟩))
    cases hzero : p.unit.isZero with
    | true => simpa using hfree
    | false =>
      simp only [Bool.false_eq_true, if_false, (insertNew_perm p ps).mem_iff, List.mem_cons,
        and_true]
      constructor
      · rintro (rfl | hq)
        · exact .inr rfl
        · exact .inl ⟨hq, hfree hq⟩
      · rintro (⟨hq, -⟩ | rfl)
        · exact .inr hq
        · exact .inl rfl

/-- Writing over units leaves the places. -/
theorem places_overwrite (p : Position) (ps : List Position) :
    (ps.map fun q => if q.samePlace p then { q with unit := p.unit } else q).map Position.place =
      ps.map Position.place := by
  rw [List.map_map]
  refine List.map_congr_left fun q _ => ?_
  simp only [Function.comp_apply]
  split <;> rfl

/-- A write puts no place in twice. -/
theorem nodup_write (h : (ps.map Position.place).Nodup) (p : Position) :
    ((write p ps).map Position.place).Nodup := by
  unfold write
  by_cases hany : ps.any (·.samePlace p) = true
  · rw [if_pos hany]
    split
    · exact (List.eraseP_sublist.map Position.place).nodup h
    · rw [places_overwrite]
      exact h
  · rw [if_neg hany]
    split
    · exact h
    · rw [((insertNew_perm p ps).map Position.place).nodup_iff, List.map_cons, List.nodup_cons]
      exact ⟨mt any_samePlace.2 hany, h⟩

/-- A write leaves a tidy list tidy. -/
theorem Tidy.write (h : Tidy ps) (p : Position) : Tidy (write p ps) := by
  refine ⟨nodup_write h.places p, fun q hq => ?_⟩
  rcases (mem_write h).1 hq with ⟨hold, -⟩ | ⟨rfl, hunit⟩
  · exact h.units q hold
  · exact hunit

/-- A unit that says zero is zero. -/
theorem isZero_iff {u : PositionUnit} : u.isZero = true ↔ u = .zero :=
  ⟨fun h => PositionUnit.ext (IntWord.ext (of_decide_eq_true h)), fun h => h ▸ rfl⟩

theorem isZero_eq_false {u : PositionUnit} : u.isZero = false ↔ u ≠ .zero := by
  rw [Ne, ← isZero_iff, Bool.not_eq_true]

/-- Where the unit is zero, a tidy list has no position. -/
theorem Tidy.not_mem_of_unit (h : Tidy ps) (hunit : unit p ps = .zero) (hq : q ∈ ps) :
    q.place ≠ p.place := by
  intro hplace
  have hzero := h.units q hq
  rw [← unit_of_mem h hq hplace, hunit] at hzero
  cases hzero

/-- **A write sets the unit of its own place and of no other.** -/
theorem unit_write (h : Tidy ps) :
    unit q (write p ps) = if q.place = p.place then p.unit else unit q ps := by
  split
  case isTrue hplace =>
    cases hzero : p.unit.isZero with
    | true =>
      rw [isZero_iff.1 hzero]
      refine unit_of_not_mem fun x hx => ?_
      rcases (mem_write h).1 hx with ⟨-, hne⟩ | ⟨-, hfalse⟩
      · exact hplace ▸ hne
      · rw [hzero] at hfalse
        cases hfalse
    | false =>
      exact unit_of_mem (h.write p) ((mem_write h).2 (.inr ⟨rfl, hzero⟩)) hplace.symm
  case isFalse hplace =>
    by_cases hq : ∃ x ∈ ps, x.place = q.place
    · obtain ⟨x, hx, hxq⟩ := hq
      rw [unit_of_mem h hx hxq]
      exact unit_of_mem (h.write p) ((mem_write h).2 (.inl ⟨hx, hxq ▸ hplace⟩)) hxq
    · have hfree : ∀ x ∈ ps, x.place ≠ q.place := fun x hx hxq => hq ⟨x, hx, hxq⟩
      rw [unit_of_not_mem hfree]
      refine unit_of_not_mem fun x hx => ?_
      rcases (mem_write h).1 hx with ⟨hx, -⟩ | ⟨rfl, -⟩
      · exact hfree x hx
      · exact fun hxq => hplace hxq.symm

/-! ## Positions that are passed over -/

section Filter

variable {f : Position → Bool}

/-- Where a position is erased that `f` does not look for, `f` finds the same, in the same order. -/
theorem filter_eraseP (hf : ∀ q, q.samePlace p = true → f q = false) (ps : List Position) :
    (ps.eraseP (·.samePlace p)).filter f = ps.filter f := by
  induction ps with
  | nil => rfl
  | cons q rest ih =>
    by_cases hq : q.samePlace p = true
    · simp [hq, hf q hq]
    · simp [hq, List.filter_cons, ih]

theorem filter_overwrite (hf : ∀ q, q.samePlace p = true → f q = false) (ps : List Position) :
    (ps.map fun q => if q.samePlace p then { q with unit := p.unit } else q).filter f =
      ps.filter f := by
  induction ps with
  | nil => rfl
  | cons q rest ih =>
    by_cases hq : q.samePlace p = true
    · have hover : f { q with unit := p.unit } = false := hf _ hq
      simp [hq, hover, hf q hq, ih]
    · simp [hq, List.filter_cons, ih]

theorem filter_insertIdx (hp : f p = false) (i : Nat) (ps : List Position) :
    (ps.insertIdx i p).filter f = ps.filter f := by
  induction ps generalizing i with
  | nil => cases i <;> simp [hp]
  | cons q rest ih =>
    cases i with
    | zero => simp [hp]
    | succ i => simp [List.filter_cons, ih]

/-- **A write moves no position of another place**: what is found when its own place is passed over
is the same, in the same order. -/
theorem filter_write (hf : ∀ q : Position, q.place = p.place → f q = false)
    (ps : List Position) : (write p ps).filter f = ps.filter f := by
  have hsame (q : Position) (h : q.samePlace p = true) : f q = false :=
    hf q (Position.samePlace_iff.1 h)
  unfold write
  split
  · split
    · exact filter_eraseP hsame ps
    · exact filter_overwrite hsame ps
  · split
    · rfl
    · exact filter_insertIdx (hf p rfl) (insertIndex p ps) ps

end Filter

/-! ## What is written as units tell it -/

/-- **`ps'` is `ps` with a position written**, as far as units tell. -/
structure Written (p : Position) (ps ps' : List Position) : Prop where
  tidy : Tidy ps → Tidy ps'
  unit : Tidy ps → ∀ q, unit q ps' = if q.place = p.place then p.unit else unit q ps

theorem written_write (p : Position) (ps : List Position) : Written p ps (write p ps) :=
  ⟨fun h => h.write p, fun h _ => unit_write h⟩

/-- A position that is there already need not be written. -/
theorem written_of_unit (h : unit p ps = p.unit) : Written p ps ps := by
  refine ⟨fun hps => hps, fun _ q => ?_⟩
  split
  case isTrue hplace =>
    have hsame : ∀ x : Position, x.samePlace q = x.samePlace p := fun x =>
      Bool.eq_iff_iff.2 (by rw [Position.samePlace_iff, Position.samePlace_iff, hplace])
    rw [← h]
    unfold Positions.unit
    simp only [hsame]
  case isFalse => rfl

end Positions

/-! ## Calls on baskets -/

namespace Chain

variable {ε α : Type} {c : Chain} {address : Address}

@[simp]
theorem ends_onTokens {x : Action TokenBook ε α} {Q : α → Chain → Prop} {E : ε → Chain → Prop} :
    ((onTokens x).run c).Ends Q E ↔
      (x.run c.tokens).Ends (fun a t => Q a { c with tokens := t })
        fun e t => E e { c with tokens := t } := Action.ends_within

@[simp]
theorem ends_onBank {x : Action Lending.Bank ε α} {Q : α → Chain → Prop}
    {E : ε → Chain → Prop} :
    ((onBank x).run c).Ends Q E ↔
      (x.run c.toBank).Ends (fun a b => Q a { c with toBank := b })
        fun e b => E e { c with toBank := b } := Action.ends_within

@[simp]
theorem ends_theBasket {Q : Basket → Chain → Prop} {E : LedgerError → Chain → Prop} :
    ((theBasket address).run c).Ends Q E ↔
      (∀ b, c.baskets.get? address = some b → Q b c) ∧
        (c.baskets.get? address = none → E (.basketNotFound address) c) := by
  change ((Action.ofExcept (c.basket address)).run c).Ends Q E ↔ _
  unfold basket
  cases c.baskets.get? address <;> simp

theorem get?_setBasket (c : Chain) (address a : Address) (b : Basket) :
    (c.setBasket address b).baskets.get? a = if a = address then some b else c.baskets.get? a :=
  c.baskets.get?_insert address a b

/-- Of two baskets that are set the later counts. -/
theorem setBasket_setBasket (c : Chain) (address : Address) (b b' : Basket) :
    (c.setBasket address b).setBasket address b' = c.setBasket address b' := by
  simp [setBasket]

/-- **`c'` is `c` with a position of the basket written.** -/
def Wrote (address : Address) (p : Position) (c c' : Chain) : Prop :=
  ∃ b ps, c.baskets.get? address = some b ∧ Positions.Written p b.positions ps ∧
    c' = c.setBasket address { b with positions := ps }

/-- A write to a basket is of no concern to tokens and the pool. -/
theorem Wrote.toBank {p : Position} {c' : Chain} (h : Wrote address p c c') :
    c'.toBank = c.toBank := by
  obtain ⟨b, ps, -, -, rfl⟩ := h
  rfl

/-- **No basket has two positions in one place**, or one of unit zero. -/
def Tidy (c : Chain) : Prop :=
  ∀ a b, c.baskets.get? a = some b → Positions.Tidy b.positions

/-- What a write leaves of a basket: its supply, and the units of its positions. -/
theorem Wrote.basket {p : Position} {c' : Chain} {b : Basket} (h : Wrote address p c c')
    (hc : c.Tidy) (hb : c.baskets.get? address = some b) :
    ∃ b', c'.baskets.get? address = some b' ∧ b'.supply = b.supply ∧
      ∀ q, Positions.unit q b'.positions =
        if q.place = p.place then p.unit else Positions.unit q b.positions := by
  obtain ⟨b₀, ps, hb₀, hps, rfl⟩ := h
  obtain rfl : b₀ = b := Option.some.inj (hb₀.symm.trans hb)
  exact ⟨_, c.baskets.get?_insert_self address _, rfl, hps.unit (hc address b₀ hb₀)⟩

/-- A module's own position, once written, is read back by the module and by no other. -/
theorem Wrote.external {component holder : Address} {unit : PositionUnit} {c' : Chain}
    {b : Basket} (h : Wrote address (.ofExternal component holder unit) c c') (hc : c.Tidy)
    (hb : c.baskets.get? address = some b) :
    ∃ b', c'.baskets.get? address = some b' ∧ b'.supply = b.supply ∧
      (∀ x y, b'.externalUnit x y =
        if x = component ∧ y = holder then unit else b.externalUnit x y) ∧
      ∀ x, b'.defaultUnit x = b.defaultUnit x := by
  obtain ⟨b', hb', hsupply, hunits⟩ := h.basket hc hb
  refine ⟨b', hb', hsupply, fun x y => ?_, fun x => ?_⟩
  · have hxy := hunits (.ofExternal x y .zero)
    simp only [Position.place_ofExternal, Prod.mk.injEq, true_and, Option.some.injEq] at hxy
    exact hxy
  · have hx := hunits (.ofDefault x .zero)
    simp only [Position.place_ofDefault, Position.place_ofExternal, Prod.mk.injEq, reduceCtorEq,
      and_false, if_false] at hx
    exact hx

/-- A default position, once written, is read back, and all other units stay as they are. -/
theorem Wrote.default {component : Address} {unit : PositionUnit} {c' : Chain} {b : Basket}
    (h : Wrote address (.ofDefault component unit) c c') (hc : c.Tidy)
    (hb : c.baskets.get? address = some b) :
    ∃ b', c'.baskets.get? address = some b' ∧ b'.supply = b.supply ∧
      (∀ x, b'.defaultUnit x = if x = component then unit else b.defaultUnit x) ∧
      ∀ x y, b'.externalUnit x y = b.externalUnit x y := by
  obtain ⟨b', hb', hsupply, hunits⟩ := h.basket hc hb
  refine ⟨b', hb', hsupply, fun x => ?_, fun x y => ?_⟩
  · have hown := hunits (.ofDefault x .zero)
    simp only [Position.place_ofDefault, Prod.mk.injEq, and_true] at hown
    exact hown
  · have hxy := hunits (.ofExternal x y .zero)
    simp only [Position.place_ofDefault, Position.place_ofExternal, Prod.mk.injEq, reduceCtorEq,
      and_false, if_false] at hxy
    exact hxy

theorem editPosition_spec (address : Address) (p : Position) (c : Chain) :
    ((editPosition address p).run c).Ends (fun _ c' => Wrote address p c c')
      fun _ c' => c' = c := by
  simp only [editPosition, requireUnit, Action.ends_bind, Action.ends_require, ends_theBasket,
    Action.ends_modify, implies_true, and_true]
  exact fun _ b hb => ⟨b, _, hb, Positions.written_write p b.positions, rfl⟩

theorem writePosition_spec (address : Address) (p : Position) (c : Chain) :
    ((writePosition address p).run c).Ends (fun _ c' => Wrote address p c c')
      fun _ c' => c' = c := by
  simp only [writePosition, requireUnit, Action.ends_bind, Action.ends_require, ends_theBasket,
    Action.ends_ite, Action.ends_modify, Action.run_pure, Outcome.ends_done, implies_true,
    and_true]
  refine fun _ b hb => ⟨fun hunit => ?_, fun _ => ?_⟩
  · refine ⟨b, b.positions, hb, Positions.written_of_unit hunit, ?_⟩
    simp [setBasket, FiniteMap.insert_of_get? hb]
  · exact ⟨b, _, hb, Positions.written_write p b.positions, rfl⟩

section Keeps

variable {I : Chain → Prop}

/-- To look a basket up changes nothing. -/
theorem keeps_theBasket (address : Address) : (theBasket address).Keeps I fun _ => True := by
  intro c hc
  rw [ends_theBasket]
  exact ⟨fun _ _ => hc, fun _ => ⟨hc, trivial⟩⟩

/-- What survives a position written survives the call that may write it. -/
theorem keeps_writePosition {p : Position} (hI : ∀ c c', Wrote address p c c' → I c → I c') :
    (writePosition address p).Keeps I fun _ => True := by
  intro c hc
  apply (writePosition_spec address p c).imp
  · intro _ c' hwrote
    exact hI c c' hwrote hc
  · rintro _ _ rfl
    exact ⟨hc, trivial⟩

theorem keeps_editPosition {p : Position} (hI : ∀ c c', Wrote address p c c' → I c → I c') :
    (editPosition address p).Keeps I fun _ => True := by
  intro c hc
  apply (editPosition_spec address p c).imp
  · intro _ c' hwrote
    exact hI c c' hwrote hc
  · rintro _ _ rfl
    exact ⟨hc, trivial⟩

end Keeps

/-- Funding a basket mints tokens for it and writes positions, and does nothing else. -/
theorem fund_spec {J : TokenBook → Prop}
    (hJ : ∀ {asset holder amount t t'}, TokenBook.Minted asset holder amount t t' → J t → J t')
    (components : List (Address × PositionUnit)) (b : Basket) (c : Chain) (hc : J c.tokens) :
    ((fund b components).run c).Ends
      (fun b' c' => (Positions.Tidy b.positions → Positions.Tidy b'.positions) ∧
        ∃ t, J t ∧ c' = { c with tokens := t })
      fun _ c' => ∃ t, J t ∧ c' = { c with tokens := t } := by
  induction components generalizing b c with
  | nil => exact ⟨fun h => h, c.tokens, hc, rfl⟩
  | cons entry rest ih =>
    obtain ⟨component, unit⟩ := entry
    simp only [fund, Action.ends_bind, Action.ends_require, Action.ends_ofExcept, ends_onTokens]
    refine ⟨fun _ => ⟨fun notional _ => ?_, fun _ _ => ⟨_, hc, rfl⟩⟩, fun _ => ⟨_, hc, rfl⟩⟩
    refine (TokenBook.mint_spec component b.address notional c.tokens).imp (fun _ t ht => ?_)
      fun _ _ h => h.elim
    refine (ih _ { c with tokens := t } (hJ ht hc)).imp ?_ ?_
    · rintro b' c' ⟨htidy, t', ht', rfl⟩
      exact ⟨fun h => htidy (h.write _), t', ht', rfl⟩
    · rintro _ c' ⟨t', ht', rfl⟩
      exact ⟨t', ht', rfl⟩

end Chain

end LeveredBasket
