/-
What conversions leave of an amount.

Shares are turned into assets (`shares::shares_to_assets`) and assets into shares
(`shares::assets_to_shares`), each way with a rounding of its own. The pairs that round
to opposite sides are adjoint: rounded up, shares are worth at most some assets exactly
if those assets, rounded down, buy at least the shares (`Share.conversions_adjoint`).
Both say that one product is at most another, in whole numbers and without a division.
That a result may not fit does not break this: what is beyond all amounts is at least
any of them, and never at most one.

Units are turned into notionals (`position::notional_magnitude`,
`position::notional_magnitude_ceil`) and back. The unit of a holding rounds down and that of
a debt up, and each notional misses what the unit was made of on the safe side only, by less
than one token's worth of the smallest units (`PositionUnit.notionals_bracket`). Where there
is no more than one token, nothing is missed, but by the rounding that leans the other way
than the unit: the ceiling of a holding, and the floor of a debt.
-/
import LeveredBasket.Proofs.FixedPoint

set_option autoImplicit false

namespace LeveredBasket

/-! ## Bounds on results that may not fit -/

/-- **A computation comes to at most `a`.** -/
def AtMost (a : Amount) (x : Except MathError Amount) : Prop := ∃ c, x = .ok c ∧ c ≤ a

/-- **A computation comes to at least `a`**, or to more than an amount can be. -/
def AtLeast (a : Amount) (x : Except MathError Amount) : Prop :=
  x = .error .overflow ∨ ∃ c, x = .ok c ∧ a ≤ c

section Bounds

variable {a : Amount} {n : Nat}

/-- A number that may not fit is at most an amount if it is so as a number. -/
theorem atMost_overflowing :
    AtMost a (MathError.overflowing (Word.ofNat? 128 n)) ↔ n ≤ a.toNat := by
  constructor
  · rintro ⟨c, hc, hle⟩
    rw [← overflowing_ofNat?_eq_ok.1 hc]
    exact hle
  · intro hle
    have hfits : n < 1 <<< 128 := Nat.lt_of_le_of_lt hle a.isLt
    exact ⟨⟨n, hfits⟩, overflowing_ofNat?_eq_ok.2 rfl, hle⟩

/-- It is at least an amount if it is so as a number, whether or not it fits. -/
theorem atLeast_overflowing :
    AtLeast a (MathError.overflowing (Word.ofNat? 128 n)) ↔ a.toNat ≤ n := by
  by_cases hfits : n < 1 <<< 128
  · have hok : MathError.overflowing (Word.ofNat? 128 n) = .ok ⟨n, hfits⟩ :=
      overflowing_ofNat?_eq_ok.2 rfl
    rw [AtLeast, hok]
    constructor
    · rintro (herror | ⟨c, hc, hle⟩)
      · cases herror
      · cases hc
        exact hle
    · intro hle
      exact .inr ⟨_, rfl, hle⟩
  · have hbeyond : 1 <<< 128 ≤ n := Nat.le_of_not_lt hfits
    rw [AtLeast, Word.ofNat?_eq_none.2 hbeyond]
    refine iff_of_true (.inl rfl) ?_
    exact Nat.le_trans (Nat.le_of_lt a.isLt) hbeyond

end Bounds

namespace Amount

variable {a b c d p q x : Amount}

theorem atMost_mulDivUp (hd : d ≠ 0) :
    AtMost c (mulDivUp a b d) ↔ (a.toNat * b.toNat) ⌈/⌉ d.toNat ≤ c.toNat := by
  rw [mulDivUp_eq_ceilDiv a b hd, atMost_overflowing]

theorem atLeast_mulDivDown (hd : d ≠ 0) :
    AtLeast c (mulDivDown a b d) ↔ c.toNat ≤ a.toNat * b.toNat / d.toNat := by
  rw [mulDivDown_eq a b hd, atLeast_overflowing]

/-- **A product over a divisor, rounded up, is adjoint to the way back, rounded down.** -/
theorem atMost_mulDivUp_iff (hp : p ≠ 0) (hq : q ≠ 0) :
    AtMost a (mulDivUp x p q) ↔ AtLeast x (mulDivDown a q p) := by
  rw [atMost_mulDivUp hq, atLeast_mulDivDown hp]
  exact ceilDiv_le_iff_le_div (toNat_pos_iff.2 hp) (toNat_pos_iff.2 hq)

end Amount

/-! ## Shares and assets -/

namespace Share

variable {A S : Amount}

/-- **Where the virtual amounts fit**, all conversions are between the same two amounts, and neither
of them is zero. -/
theorem exists_adjusted (hA : A.toNat + virtualAssets.toNat < 1 <<< 128)
    (hS : S.toNat + virtualShares.toNat < 1 <<< 128) :
    ∃ assets pool : Amount, assets ≠ 0 ∧ pool ≠ 0 ∧
      (∀ r x, toAssets r x A S = r.mulDiv x assets pool) ∧
      ∀ r x, ofAssets r x A S = r.mulDiv x pool assets := by
  have hassets : A.add virtualAssets = .ok ⟨_, hA⟩ := Amount.add_eq_ok.2 rfl
  have hpool : S.add virtualShares = .ok ⟨_, hS⟩ := Amount.add_eq_ok.2 rfl
  refine ⟨⟨_, hA⟩, ⟨_, hS⟩, ?_, ?_, fun r x => ?_, fun r x => ?_⟩
  · rw [← Amount.toNat_pos_iff]
    exact Nat.lt_add_left _ (by decide)
  · rw [← Amount.toNat_pos_iff]
    exact Nat.lt_add_left _ (by decide)
  · rw [toAssets, hassets, hpool]
    rfl
  · rw [ofAssets, hassets, hpool]
    rfl

section Adjoint

variable (hA : A.toNat + virtualAssets.toNat < 1 <<< 128)
  (hS : S.toNat + virtualShares.toNat < 1 <<< 128)

include hA hS

/-- What shares cost is at most what one has exactly if that buys them. -/
theorem atMost_toAssets_up (x a : Amount) :
    AtMost a (toAssets .up x A S) ↔ AtLeast x (ofAssets .down a A S) := by
  obtain ⟨assets, pool, hassets, hpool, hto, hof⟩ := exists_adjusted hA hS
  rw [hto, hof]
  exact Amount.atMost_mulDivUp_iff hassets hpool

/-- The shares that assets cost are at most what one has exactly if those are worth the assets. -/
theorem atMost_ofAssets_up (x a : Amount) :
    AtMost x (ofAssets .up a A S) ↔ AtLeast a (toAssets .down x A S) := by
  obtain ⟨assets, pool, hassets, hpool, hto, hof⟩ := exists_adjusted hA hS
  rw [hto, hof]
  exact Amount.atMost_mulDivUp_iff hpool hassets

/-- **Conversions of shares and assets are adjoint**, in both pairs that round to opposite sides. -/
theorem conversions_adjoint (x a : Amount) :
    (AtMost a (toAssets .up x A S) ↔ AtLeast x (ofAssets .down a A S)) ∧
      (AtMost x (ofAssets .up a A S) ↔ AtLeast a (toAssets .down x A S)) :=
  ⟨atMost_toAssets_up hA hS x a, atMost_ofAssets_up hA hS x a⟩

/-- **There and back.** What shares are worth, rounded down, never costs more than the shares; what
they cost, rounded up, always buys them. -/
theorem ofAssets_toAssets_bracket {x low high : Amount} (hlow : toAssets .down x A S = .ok low)
    (hhigh : toAssets .up x A S = .ok high) :
    AtMost x (ofAssets .up low A S) ∧ AtLeast x (ofAssets .down high A S) := by
  constructor
  · rw [atMost_ofAssets_up hA hS]
    exact .inr ⟨low, hlow, Nat.le_refl _⟩
  · rw [← atMost_toAssets_up hA hS]
    exact ⟨high, hhigh, Nat.le_refl _⟩

end Adjoint

/-- So it is for the largest amount in an empty pool: it buys more shares than there can be, and so
at least the seven that cost one asset; and seven shares are worth nothing, for which none are
needed. -/
theorem conversions_adjoint_of_empty :
    (0 : Amount).toNat + virtualAssets.toNat < 1 <<< 128 ∧
    (0 : Amount).toNat + virtualShares.toNat < 1 <<< 128 ∧
    ofAssets .down (Word.largest 128) 0 0 = .error .overflow ∧
    AtMost (Word.largest 128) (toAssets .up ⟨7, by decide⟩ 0 0) ∧
    toAssets .down ⟨7, by decide⟩ 0 0 = .ok 0 ∧
    AtMost ⟨7, by decide⟩ (ofAssets .up 0 0 0) := by
  have hA : (0 : Amount).toNat + virtualAssets.toNat < 1 <<< 128 := by decide
  have hS : (0 : Amount).toNat + virtualShares.toNat < 1 <<< 128 := by decide
  have hbeyond : ofAssets .down (Word.largest 128) 0 0 = .error .overflow := by decide
  have hnothing : toAssets .down ⟨7, by decide⟩ 0 0 = .ok 0 := by decide
  refine ⟨hA, hS, hbeyond, ?_, hnothing, ?_⟩
  · exact (conversions_adjoint hA hS _ _).1.2 (.inl hbeyond)
  · exact (conversions_adjoint hA hS _ _).2.2 (.inr ⟨0, hnothing, Nat.le_refl 0⟩)

end Share

/-! ## Units and notionals -/

namespace PositionUnit

variable {holding debt supply : Amount} {u v : PositionUnit}

theorem size_of_ofHolding (h : ofHolding holding supply = .ok u) : 0 < supply.toNat ∧
    u.magnitude.toNat = holding.toNat * Amount.one.toNat / supply.toNat := by
  obtain ⟨hsupply, hvalue⟩ := ofHolding_eq_ok h
  exact ⟨hsupply, magnitude_toNat hvalue⟩

theorem size_of_ofDebt (h : ofDebt debt supply = .ok v) : 0 < supply.toNat ∧
    v.magnitude.toNat = (debt.toNat * Amount.one.toNat) ⌈/⌉ supply.toNat := by
  obtain ⟨hsupply, hvalue⟩ := ofDebt_eq_ok h
  exact ⟨hsupply, magnitude_toNat_of_neg hvalue⟩

/-- Of one unit the notional rounded down is no more than the one rounded up, and there is the one
wherever there is the other. -/
theorem exists_notionalSize {high : Amount} (h : u.notionalSizeUp supply = .ok high) :
    ∃ low, u.notionalSize supply = .ok low ∧ low ≤ high := by
  have hle : u.magnitude.toNat * supply.toNat / Amount.one.toNat ≤ high.toNat := by
    rw [notionalSizeUp_iff.1 h, ← Nat.floorDiv_eq_div]
    exact floorDiv_le_ceilDiv
  exact ⟨⟨_, Nat.lt_of_le_of_lt hle high.isLt⟩, notionalSize_iff.2 rfl, hle⟩

/-- **The unit of a holding has a notional within it**, also rounded up, and short of it by less
than the supply in parts of a token. -/
theorem exists_notionalSizeUp_of_holding (h : ofHolding holding supply = .ok u) :
    ∃ high, u.notionalSizeUp supply = .ok high ∧ high ≤ holding ∧
      (holding.toNat - high.toNat) * Amount.one.toNat < supply.toNat ∧
      (supply ≤ Amount.one → high = holding) := by
  have hone : 0 < Amount.one.toNat := by decide
  obtain ⟨hsupply, hsize⟩ := size_of_ofHolding h
  have hle := returned_le holding.toNat supply.toNat hone
  have hless := sub_returned_mul_lt holding.toNat hsupply hone
  have hexact := returned_eq (b := Amount.one.toNat) holding.toNat hsupply
  rw [← hsize] at hle hless hexact
  exact ⟨⟨_, Nat.lt_of_le_of_lt hle holding.isLt⟩, notionalSizeUp_iff.2 rfl, hle, hless,
    fun hsmall => Word.ext (hexact hsmall)⟩

/-- **The unit of a debt has a notional that covers it**, also rounded down, and beyond it by less
than the supply in parts of a token. -/
theorem notionalSize_of_debt (h : ofDebt debt supply = .ok v) {low : Amount}
    (hlow : v.notionalSize supply = .ok low) :
    debt ≤ low ∧ (low.toNat - debt.toNat) * Amount.one.toNat < supply.toNat := by
  obtain ⟨hsupply, hsize⟩ := size_of_ofDebt h
  rw [notionalSize_iff, hsize] at hlow
  constructor
  · rw [Word.le_iff, hlow]
    exact le_regained debt.toNat (by decide) hsupply
  · rw [hlow]
    exact regained_sub_mul_lt debt.toNat Amount.one.toNat hsupply

/-- Of no more than one token the notional of a debt is the debt, and always fits. -/
theorem notionalSize_of_small_debt (h : ofDebt debt supply = .ok v) (hsmall : supply ≤ Amount.one) :
    v.notionalSize supply = .ok debt := by
  obtain ⟨hsupply, hsize⟩ := size_of_ofDebt h
  rw [notionalSize_iff, hsize]
  exact (regained_eq debt.toNat hsupply hsmall).symm

/-- **Units round to the safe side, and exactly at small supplies.** The notionals of a holding's
unit are defined and at most the holding, and the one that is rounded up falls short of it by less
than one token's worth. Those of a debt's unit, where they fit, are at least the debt, and the one
that is rounded down goes beyond it by less than that. Of no more than one token, these two are
the holding and the debt. -/
theorem notionals_bracket (holding debt supply : Amount) :
    (∀ u, ofHolding holding supply = .ok u → ∃ low high,
      u.notionalSize supply = .ok low ∧ u.notionalSizeUp supply = .ok high ∧
      low ≤ high ∧ high ≤ holding ∧
      (holding.toNat - high.toNat) * Amount.one.toNat < supply.toNat ∧
      (supply ≤ Amount.one → high = holding)) ∧
    (∀ v, ofDebt debt supply = .ok v →
      (∀ low, v.notionalSize supply = .ok low →
        debt ≤ low ∧ (low.toNat - debt.toNat) * Amount.one.toNat < supply.toNat) ∧
      (∀ high, v.notionalSizeUp supply = .ok high →
        ∃ low, v.notionalSize supply = .ok low ∧ low ≤ high) ∧
      (supply ≤ Amount.one → v.notionalSize supply = .ok debt)) := by
  constructor
  · intro u hu
    obtain ⟨high, hhigh, hle, hless, hexact⟩ := exists_notionalSizeUp_of_holding hu
    obtain ⟨low, hlow, hbelow⟩ := exists_notionalSize hhigh
    exact ⟨low, high, hlow, hhigh, hbelow, hle, hless, hexact⟩
  · intro v hv
    refine ⟨fun low hlow => notionalSize_of_debt hv hlow, ?_, notionalSize_of_small_debt hv⟩
    intro high hhigh
    exact exists_notionalSize hhigh

/-- So it is for a holding of seven and a debt of seven over three parts of a token: both units are
rounded, and each comes to seven again if its notional is rounded the other way. -/
theorem notionals_bracket_of_three :
    ∃ (seven three : Amount) (u v : PositionUnit) (low high : Amount),
    seven.toNat = 7 ∧ three.toNat = 3 ∧
    ofHolding seven three = .ok u ∧ u.value.toInt = 2_333_333_333_333_333_333 ∧
    ofDebt seven three = .ok v ∧ v.value.toInt = -2_333_333_333_333_333_334 ∧
    u.notionalSize three = .ok low ∧ low < seven ∧ u.notionalSizeUp three = .ok seven ∧
    v.notionalSize three = .ok seven ∧ v.notionalSizeUp three = .ok high ∧ seven < high := by
  let seven : Amount := ⟨7, by decide⟩
  let three : Amount := ⟨3, by decide⟩
  have hu : ofHolding seven three = .ok ⟨⟨2_333_333_333_333_333_333, by decide, by decide⟩⟩ := by
    decide
  have hv : ofDebt seven three = .ok ⟨⟨-2_333_333_333_333_333_334, by decide, by decide⟩⟩ := by
    decide
  obtain ⟨hholding, hdebt⟩ := notionals_bracket seven seven three
  obtain ⟨low, high, hlow, hhigh, -, -, -, hexact⟩ := hholding _ hu
  obtain ⟨-, -, hcovers⟩ := hdebt _ hv
  have hsmall : three ≤ Amount.one := by decide
  rw [hexact hsmall] at hhigh
  have hlow' : low.toNat = 6 := (notionalSize_iff.1 hlow).trans (by decide)
  have hshort : low < seven := by
    rw [Word.lt_iff, hlow']
    decide
  exact ⟨seven, three, _, _, low, ⟨8, by decide⟩, rfl, rfl, hu, rfl, hv, rfl, hlow, hshort, hhigh,
    hcovers hsmall, by decide, by decide⟩

end PositionUnit

end LeveredBasket
