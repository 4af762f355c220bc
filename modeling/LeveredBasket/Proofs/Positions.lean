/-
A basket's list of positions (`BasketToken::upsert`) refines a map from places to
units.

A position that has no place yet goes to an index that is reckoned from the last
position of its component and from how many the component has. This index is in front
of the component's positions, or behind them, only if they stand together, and nothing
but earlier writes has put them together. So the invariant is that the list is one block
after another (`Positions.Grouped`): each of one component, no two of the same, and
nothing but the first position of a block is a default one.

The index of a new position passes over the blocks of other components
(`Positions.insertNew_append`) and is at an end of the block of its own
(`Positions.insertNew_block`). So an induction on the blocks shows that to write keeps
them, and one on the calls that they are there on every basket.
-/
import LeveredBasket.Proofs.Baskets

set_option autoImplicit false

namespace LeveredBasket

/-! ## Calls that set units -/

/-- What a unit is set for: what the basket itself has of a component, or what a module has of it
on the basket's account. -/
inductive UnitKey where
  | default (component : Address)
  | external (component holder : Address)
deriving DecidableEq

namespace UnitKey

def position (unit : PositionUnit) : UnitKey → Position
  | default component => .ofDefault component unit
  | external component holder => .ofExternal component holder unit

/-- The unit that the last call for the key has set, and zero if there has been none. -/
def lastIn (key : UnitKey) (calls : List (UnitKey × PositionUnit)) : PositionUnit :=
  ((calls.reverse.find? (·.1 = key)).map (·.2)).getD .zero

end UnitKey

namespace Basket

def unitAt (b : Basket) : UnitKey → PositionUnit
  | .default component => b.defaultUnit component
  | .external component holder => b.externalUnit component holder

def setUnit (b : Basket) (unit : PositionUnit) : UnitKey → Basket
  | .default component => b.setDefault component unit
  | .external component holder => b.setExternal component holder unit

/-- The basket after one call after the other. -/
def setUnits (b : Basket) (calls : List (UnitKey × PositionUnit)) : Basket :=
  calls.foldl (fun b call => b.setUnit call.2 call.1) b

end Basket

namespace Positions

/-- **The positions of a component stand together**, and none but the first is a default one. -/
def Together (component : Address) (ps : List Position) : Prop :=
  ∃ before own after, ps = before ++ own ++ after ∧ (∀ q ∈ own, q.component = component) ∧
    (∀ q ∈ before ++ after, q.component ≠ component) ∧ ∀ q ∈ own.tail, q.kind = .external

/-- **`ps'` is `ps` but for the entry of one place.** -/
structure Edited (p : Position) (ps ps' : List Position) : Prop where
  own : ps'.filter (·.samePlace p) = if p.unit = .zero then [] else [p]
  /-- The entries of other places are the same, in the same order. -/
  others : ps'.filter (!·.samePlace p) = ps.filter (!·.samePlace p)
  /-- An entry that is there already keeps its place in the list. -/
  kept : p.place ∈ ps.map Position.place → p.unit ≠ .zero →
    ps'.map Position.place = ps.map Position.place
  /-- The first entry of a component comes to stand at the end. -/
  first : (∀ q ∈ ps, q.component ≠ p.component) →
    ps' = if p.unit = .zero then ps else ps ++ [p]

end Positions

/-- **The basket's list of positions reads as a map**, the one that the calls have set. -/
structure Basket.Refines (calls : List (UnitKey × PositionUnit)) (b : Basket) : Prop where
  units : ∀ q ∈ b.positions, q.unit ≠ .zero
  places : (b.positions.map Position.place).Nodup
  together : ∀ component, Positions.Together component b.positions
  last : ∀ key, b.unitAt key = key.lastIn calls
  /-- A further call does nothing but to edit the list at the place of its key. -/
  next : ∀ key unit, ∃ ps, b.setUnit unit key = { b with positions := ps } ∧
    Positions.Edited (key.position unit) b.positions ps

/-! ## Where a new position goes -/

theorem PositionKind.eq_external (k : PositionKind) (h : k ≠ .default) : k = .external := by
  cases k with
  | default => exact absurd rfl h
  | external => rfl

namespace Positions

variable {p q : Position} {ps own rest : List Position} {component : Address}

theorem lastIndex?_eq_none :
    lastIndex? component ps = none ↔ ∀ q ∈ ps, q.component ≠ component := by
  induction ps with
  | nil => simp [lastIndex?]
  | cons q rest ih =>
    simp only [lastIndex?, List.forall_mem_cons, ← ih]
    cases lastIndex? component rest <;> simp

/-- Positions of other components in front only count. -/
theorem lastIndex?_append (h : ∀ q ∈ own, q.component ≠ component) :
    lastIndex? component (own ++ rest) =
      (lastIndex? component rest).map (own.length + ·) := by
  induction own with
  | nil => simp
  | cons q own ih =>
    have hq : q.component ≠ component := h q List.mem_cons_self
    have hown := ih fun x hx => h x (List.mem_cons_of_mem q hx)
    simp only [List.cons_append, lastIndex?, hown, if_neg hq, List.length_cons]
    cases lastIndex? component rest with
    | none => rfl
    | some last => simp only [Option.map_some, Option.some.injEq]; omega

/-- The last of positions that are all of the component, with none behind them. -/
theorem lastIndex?_block (hne : own ≠ []) (hown : ∀ q ∈ own, q.component = component)
    (hrest : ∀ q ∈ rest, q.component ≠ component) :
    lastIndex? component (own ++ rest) = some (own.length - 1) := by
  induction own with
  | nil => exact absurd rfl hne
  | cons q own ih =>
    have hq : q.component = component := hown q List.mem_cons_self
    by_cases hnil : own = []
    · simp [hnil, lastIndex?, lastIndex?_eq_none.2 hrest, hq]
    · have hlast := ih hnil fun x hx => hown x (List.mem_cons_of_mem q hx)
      have hpos : 0 < own.length := List.length_pos_of_ne_nil hnil
      simp only [List.cons_append, lastIndex?, hlast, List.length_cons, Option.some.injEq]
      omega

/-- A component has no more positions than fit in up to its last. -/
theorem countP_le_lastIndex {last : Nat} (h : lastIndex? component ps = some last) :
    ps.countP (·.component = component) ≤ last + 1 := by
  induction ps generalizing last with
  | nil => cases h
  | cons q rest ih =>
    rw [List.countP_cons]
    unfold lastIndex? at h
    split at h
    case h_1 before hbefore =>
      obtain rfl : before + 1 = last := Option.some.inj h
      have hcount := ih hbefore
      split <;> omega
    case h_2 hnone =>
      have hzero : rest.countP (·.component = component) = 0 := by
        simpa [List.countP_eq_zero] using lastIndex?_eq_none.1 hnone
      split <;> omega

/-- To insert behind the first part of a list is to insert into the second. -/
theorem insertIdx_append (own rest : List Position) (i : Nat) (p : Position) :
    (own ++ rest).insertIdx (own.length + i) p = own ++ rest.insertIdx i p := by
  induction own with
  | nil => simp
  | cons q own ih => simp [Nat.succ_add, ih]

/-- **A new position passes over those of other components.** -/
theorem insertNew_append (h : ∀ q ∈ own, q.component ≠ p.component) :
    insertNew p (own ++ rest) = own ++ insertNew p rest := by
  have hcount : own.countP (·.component = p.component) = 0 := by
    simpa [List.countP_eq_zero] using h
  have hindex : insertIndex p (own ++ rest) = own.length + insertIndex p rest := by
    unfold insertIndex
    rw [lastIndex?_append h]
    cases hlast : lastIndex? p.component rest with
    | none => simp
    | some last =>
      -- the subtraction stops at zero, so that the count is no more than it is taken from matters
      have hle := countP_le_lastIndex hlast
      simp only [Option.map_some, List.countP_append, hcount]
      split <;> omega
  unfold insertNew
  rw [hindex, insertIdx_append]

/-- **A new position goes to an end of its component's**, where these stand together. -/
theorem insertNew_block (hne : own ≠ []) (hown : ∀ q ∈ own, q.component = p.component)
    (hrest : ∀ q ∈ rest, q.component ≠ p.component) :
    insertNew p (own ++ rest) =
      if p.kind = .default then p :: (own ++ rest) else own ++ p :: rest := by
  have hpos : 0 < own.length := List.length_pos_of_ne_nil hne
  have hcount : (own ++ rest).countP (·.component = p.component) = own.length := by
    have hall : own.countP (·.component = p.component) = own.length := by
      simpa [List.countP_eq_length] using hown
    have hnone : rest.countP (·.component = p.component) = 0 := by
      simpa [List.countP_eq_zero] using hrest
    rw [List.countP_append, hall, hnone, Nat.add_zero]
  unfold insertNew insertIndex
  rw [lastIndex?_block hne hown hrest]
  cases hkind : p.kind with
  | default =>
    have hzero : own.length - 1 + 1 - own.length = 0 := by omega
    simp only [hcount, hzero, List.insertIdx_zero, if_true]
  | external =>
    have hlength : own.length - 1 + 1 = own.length + 0 := by omega
    simp only [hlength, insertIdx_append, List.insertIdx_zero, reduceCtorEq, if_false]

/-- The first position of a component goes to the end. -/
theorem insertNew_first (h : ∀ q ∈ ps, q.component ≠ p.component) : insertNew p ps = ps ++ [p] := by
  unfold insertNew insertIndex
  rw [lastIndex?_eq_none.2 h, List.insertIdx_length_self]

/-! ## Blocks -/

/-- **A block**: positions of one component, the default one first if there is one. -/
structure Block (component : Address) (own : List Position) : Prop where
  nonempty : own ≠ []
  component : ∀ q ∈ own, q.component = component
  externals : ∀ q ∈ own.tail, q.kind = .external

/-- **The list is one block after another**, no two of the same component. -/
inductive Grouped : List Position → Prop where
  | nil : Grouped []
  | block {component : Address} {own rest : List Position} (hown : Block component own)
      (hrest : ∀ q ∈ rest, q.component ≠ component) (h : Grouped rest) : Grouped (own ++ rest)

theorem Grouped.together (h : Grouped ps) (component : Address) : Together component ps := by
  induction h with
  | nil => exact ⟨[], [], [], by simp⟩
  | @block other own rest hown hrest h ih =>
    by_cases hsame : other = component
    · subst hsame
      exact ⟨[], own, rest, rfl, hown.component, by simpa using hrest, hown.externals⟩
    · obtain ⟨before, mine, after, rfl, hmine, hothers, htail⟩ := ih
      refine ⟨own ++ before, mine, after, by simp, hmine, fun q hq => ?_, htail⟩
      rcases List.mem_append.1 (by simpa using hq : q ∈ own ++ (before ++ after)) with hq | hq
      · exact hown.component q hq ▸ hsame
      · exact hothers q hq

/-- To take positions off leaves blocks, or what is left of them. -/
theorem Grouped.sublist {ps' : List Position} (h : Grouped ps) (hsub : ps'.Sublist ps) :
    Grouped ps' := by
  induction h generalizing ps' with
  | nil => exact List.sublist_nil.1 hsub ▸ .nil
  | block hown hrest h ih =>
    obtain ⟨own', rest', rfl, hown', hrest'⟩ := List.sublist_append_iff.1 hsub
    have hgrouped := ih hrest'
    by_cases hnil : own' = []
    · simpa [hnil] using hgrouped
    · exact .block
        ⟨hnil, fun q hq => hown.component q (hown'.subset hq),
          fun q hq => hown.externals q (hown'.tail.subset hq)⟩
        (fun q hq => hrest q (hrest'.subset hq)) hgrouped

/-- What changes units only leaves the blocks. -/
theorem Grouped.map {f : Position → Position} (hf : ∀ q, (f q).place = q.place)
    (h : Grouped ps) : Grouped (ps.map f) := by
  have hcomponent (q : Position) : (f q).component = q.component := congrArg (·.1) (hf q)
  have hkind (q : Position) : (f q).kind = q.kind := congrArg (·.2.1) (hf q)
  induction h with
  | nil => exact .nil
  | @block component own rest hown hrest h ih =>
    have hblock : Block component (own.map f) :=
      ⟨by simpa using hown.nonempty, by simpa [hcomponent] using hown.component,
        by simpa [← List.map_tail, hkind] using hown.externals⟩
    rw [List.map_append]
    exact .block hblock (by simpa [hcomponent] using hrest) ih

/-- A new position goes into the block of its component, unless it is a second default one. -/
theorem Grouped.insertNew (h : Grouped ps)
    (hp : p.kind = .default → ∀ q ∈ ps, q.component = p.component → q.kind = .external) :
    Grouped (insertNew p ps) := by
  induction h with
  | nil =>
    have hblock : Block p.component [p] := ⟨by simp, by simp, by simp⟩
    rw [insertNew_first (by simp)]
    simpa using Grouped.block hblock (by simp) .nil
  | @block component own rest hown hrest h ih =>
    -- a block of another component is passed over; in its own, `p` goes to one end
    by_cases hsame : component = p.component
    · subst hsame
      rw [insertNew_block hown.nonempty hown.component hrest]
      split
      case isTrue hdefault =>
        have hblock : Block p.component (p :: own) :=
          ⟨by simp, by simpa using hown.component, fun q hq =>
            hp hdefault q (List.mem_append_left rest hq) (hown.component q hq)⟩
        exact .block hblock hrest h
      case isFalse hexternal =>
        have hkind : p.kind = .external := p.kind.eq_external hexternal
        have hblock : Block p.component (own ++ [p]) := by
          refine ⟨by simp, ?_, ?_⟩
          · exact List.forall_mem_append.2 ⟨hown.component, by simp⟩
          · rw [List.tail_append_of_ne_nil hown.nonempty]
            exact List.forall_mem_append.2 ⟨hown.externals, by simpa using hkind⟩
        rw [List.append_cons]
        exact .block hblock hrest h
    · have hother : ∀ q ∈ own, q.component ≠ p.component := fun q hq =>
        hown.component q hq ▸ hsame
      rw [insertNew_append hother]
      refine .block hown (fun q hq => ?_) (ih fun hdefault q hq =>
        hp hdefault q (List.mem_append_right own hq))
      rcases List.mem_cons.1 ((insertNew_perm p rest).mem_iff.1 hq) with rfl | hq
      · exact Ne.symm hsame
      · exact hrest q hq

/-! ## Lists that calls have written -/

/-- **A list as calls leave it**: tidy, in blocks, and a default position is nobody's. -/
structure Arranged (ps : List Position) : Prop where
  tidy : Tidy ps
  grouped : Grouped ps
  defaults : ∀ q ∈ ps, q.kind = .default → q.holder = none

theorem arranged_nil : Arranged [] := ⟨tidy_nil, .nil, fun _ hq => absurd hq List.not_mem_nil⟩

/-- To write keeps the blocks. -/
theorem Arranged.grouped_write (h : Arranged ps) (hp : p.kind = .default → p.holder = none) :
    Grouped (write p ps) := by
  unfold write
  by_cases hany : ps.any (·.samePlace p) = true
  · rw [if_pos hany]
    split
    · exact h.grouped.sublist List.eraseP_sublist
    · exact h.grouped.map fun q => by split <;> rfl
  · rw [if_neg hany]
    split
    · exact h.grouped
    · refine h.grouped.insertNew fun hdefault q hq hcomponent => ?_
      -- a default position of the component would be in the place of the new one
      refine q.kind.eq_external fun hqdefault => ?_
      have hplace : q.place = p.place := by
        simp [Position.place, hcomponent, hqdefault, hdefault, hp hdefault,
          h.defaults q hq hqdefault]
      exact hany (any_samePlace.2 (List.mem_map.2 ⟨q, hq, hplace⟩))

/-- **A write keeps what earlier writes have arranged.** -/
theorem Arranged.write (h : Arranged ps) (hp : p.kind = .default → p.holder = none) :
    Arranged (write p ps) := by
  refine ⟨h.tidy.write p, h.grouped_write hp, fun q hq => ?_⟩
  rcases (mem_write h.tidy).1 hq with ⟨hold, -⟩ | ⟨rfl, -⟩
  · exact h.defaults q hold
  · exact hp

/-- In a tidy list a position is the only one in its place. -/
theorem Tidy.filter_samePlace (h : Tidy ps) (hp : p ∈ ps) :
    ps.filter (·.samePlace p) = [p] := by
  have hnodup : (ps.filter (·.samePlace p)).Nodup := (List.Nodup.of_map _ h.places).filter _
  refine List.perm_singleton.1 ((List.perm_ext_iff_of_nodup hnodup (List.nodup_singleton p)).2 ?_)
  intro q
  rw [List.mem_filter, List.mem_singleton, Position.samePlace_iff]
  constructor
  · exact fun ⟨hq, hplace⟩ => h.eq_of_place hq hp hplace
  · rintro rfl
    exact ⟨hp, rfl⟩

/-- **A write edits the entry of its own place only.** -/
theorem Tidy.edited_write (h : Tidy ps) (p : Position) : Edited p ps (Positions.write p ps) := by
  refine ⟨?_, filter_write (fun q hq => by simpa using Position.samePlace_iff.2 hq) ps, ?_, ?_⟩
  · -- a unit of zero leaves nothing in the place, any other leaves `p` alone there
    split
    case isTrue hzero =>
      refine List.filter_eq_nil_iff.2 fun q hq hsame => ?_
      rcases (mem_write h).1 hq with ⟨-, hplace⟩ | ⟨-, hunit⟩
      · exact hplace (Position.samePlace_iff.1 hsame)
      · rw [hzero] at hunit
        cases hunit
    case isFalse hunit =>
      exact (h.write p).filter_samePlace ((mem_write h).2 (.inr ⟨rfl, isZero_eq_false.2 hunit⟩))
  · intro hp hunit
    unfold Positions.write
    rw [if_pos (any_samePlace.2 hp), isZero_eq_false.2 hunit, if_neg Bool.false_ne_true]
    exact places_overwrite p ps
  · intro hfirst
    have hany : ¬ps.any (·.samePlace p) = true := fun hany => by
      obtain ⟨q, hq, hplace⟩ := List.mem_map.1 (any_samePlace.1 hany)
      exact hfirst q hq (congrArg (·.1) hplace)
    unfold Positions.write
    rw [if_neg hany, insertNew_first hfirst]
    simp only [isZero_iff]

end Positions

/-! ## The map -/

namespace UnitKey

variable {key key' : UnitKey} {unit unit' : PositionUnit}

@[simp]
theorem position_unit : (key.position unit).unit = unit := by cases key <;> rfl

/-- A key is a place. -/
theorem place_position_eq :
    (key.position unit).place = (key'.position unit').place ↔ key = key' := by
  cases key <;> cases key' <;> simp [position]

/-- A default position is nobody's. -/
theorem holder_of_default :
    (key.position unit).kind = .default → (key.position unit).holder = none := by
  cases key <;> simp [position, Position.ofDefault, Position.ofExternal]

theorem lastIn_append (key : UnitKey) (calls : List (UnitKey × PositionUnit))
    (call : UnitKey × PositionUnit) :
    key.lastIn (calls ++ [call]) = if call.1 = key then call.2 else key.lastIn calls := by
  simp only [lastIn, List.reverse_append, List.reverse_singleton, List.singleton_append,
    List.find?_cons]
  split <;> simp_all

end UnitKey

namespace Basket

variable {b : Basket} {key : UnitKey} {unit : PositionUnit}

theorem unitAt_eq (b : Basket) (key : UnitKey) :
    b.unitAt key = Positions.unit (key.position .zero) b.positions := by cases key <;> rfl

theorem setUnit_eq (b : Basket) (unit : PositionUnit) (key : UnitKey) :
    b.setUnit unit key =
      { b with positions := Positions.write (key.position unit) b.positions } := by
  cases key <;> rfl

theorem setUnits_append (b : Basket) (calls : List (UnitKey × PositionUnit))
    (call : UnitKey × PositionUnit) :
    b.setUnits (calls ++ [call]) = (b.setUnits calls).setUnit call.2 call.1 := by
  rw [setUnits, List.foldl_append]
  rfl

/-- A call sets the unit of its key and of no other. -/
theorem unitAt_setUnit (h : Positions.Tidy b.positions) (key' : UnitKey) :
    (b.setUnit unit key).unitAt key' = if key = key' then unit else b.unitAt key' := by
  rw [unitAt_eq, unitAt_eq, setUnit_eq, Positions.unit_write h, UnitKey.position_unit]
  simp only [UnitKey.place_position_eq, eq_comm]

/-- **What calls have arranged**, starting from a basket with no positions. -/
theorem arranged_setUnits (address manager : Address) (supply : Amount)
    (calls : List (UnitKey × PositionUnit)) :
    Positions.Arranged ((create address manager supply).setUnits calls).positions := by
  induction calls using List.reverseRecOn with
  | nil => exact Positions.arranged_nil
  | append_singleton calls call ih =>
    rw [setUnits_append, setUnit_eq]
    exact ih.write UnitKey.holder_of_default

/-- What is read for a key is what the last call for it has set. -/
theorem unitAt_setUnits (address manager : Address) (supply : Amount)
    (calls : List (UnitKey × PositionUnit)) (key : UnitKey) :
    ((create address manager supply).setUnits calls).unitAt key = key.lastIn calls := by
  induction calls using List.reverseRecOn with
  | nil => cases key <;> rfl
  | append_singleton calls call ih =>
    have htidy := (arranged_setUnits address manager supply calls).tidy
    rw [setUnits_append, unitAt_setUnit htidy, ih, UnitKey.lastIn_append]

/-- **The list of positions refines a map.** Whatever calls have set the units of a basket that had
none, its list has no unit of zero, no place twice, and the positions of each component together,
the default one first; a key reads the unit that the last call has set for it. A further call edits
the list at its own key's place, and all other entries stay as they are, in their order. -/
theorem setUnits_refines (address manager : Address) (supply : Amount)
    (calls : List (UnitKey × PositionUnit)) :
    ((create address manager supply).setUnits calls).Refines calls := by
  have harranged := arranged_setUnits address manager supply calls
  refine ⟨fun q hq => ?_, harranged.tidy.places, harranged.grouped.together,
    unitAt_setUnits address manager supply calls, fun key unit => ?_⟩
  · exact Positions.isZero_eq_false.1 (harranged.tidy.units q hq)
  · exact ⟨_, setUnit_eq _ unit key, harranged.tidy.edited_write (key.position unit)⟩

end Basket

end LeveredBasket
