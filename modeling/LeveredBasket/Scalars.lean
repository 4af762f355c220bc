/-
Addresses, rates, position units and instants.

Accounts, tokens, baskets, modules, oracles and markets share one space of
64-bit addresses. An address is shown as forty hexadecimal digits.

One basis point is one part in ten thousand. A rate above ten thousand is
possible; what caps a rate is the business of the one who applies it.

A position unit is how much of a component one basket token stands for. It has
eighteen decimals and is negative for a debt. A basket's notional in a component
is its unit times its supply. Units of assets round down and units of debts round
away from zero, so that a unit never promises more than the basket has nor owns
up to less than it owes.

An instant counts milliseconds from an epoch. Whole seconds are cut off toward
the epoch, so an instant shortly before it belongs to second zero.
-/
import LeveredBasket.Decimal
import LeveredBasket.FiniteMap

set_option autoImplicit false

namespace LeveredBasket

/-! ## Addresses -/

/-- **An address** (`types::Address`). -/
@[ext]
structure Address where
  value : Word 64
deriving DecidableEq

namespace Address

/-- The address of number `n`. -/
def of (n : Nat) (h : n < 1 <<< 64 := by decide) : Address := ⟨⟨n, h⟩⟩

/-- Whether this is the address of number zero. -/
def isZero (a : Address) : Bool := a.value = 0

def text (a : Address) : String := hexText 40 a.value.toNat

instance : ToString Address := ⟨text⟩

instance : Inhabited Address := ⟨⟨0⟩⟩

/-- Addresses are ordered by number. -/
instance : Key Address := Key.ofNat (fun a => a.value.toNat) fun h => Address.ext (Word.ext h)

end Address

/-! ## Rates in basis points -/

/-- **A rate in basis points** (`types::Bps`). -/
structure BasisPoints where
  value : Word 32
deriving DecidableEq

namespace BasisPoints

/-- The whole: ten thousand basis points. -/
def whole : BasisPoints := ⟨⟨10_000, by decide⟩⟩

def zero : BasisPoints := ⟨0⟩

def isZero (r : BasisPoints) : Bool := r.value = 0

/-- Whether the rate is more than the whole. -/
def exceedsWhole (r : BasisPoints) : Bool := whole.value < r.value

/-- The rate as a fraction of the whole, to four places (`Bps::as_fraction`). -/
def fraction (r : BasisPoints) : Decimal := ⟨r.value.toNat, 4⟩

/-- The share of `amount` that the rate stands for, rounded down (`Bps::apply`). -/
def apply (r : BasisPoints) (amount : Amount) : Except MathError Amount :=
  Amount.mulDivDown amount (r.value.widen (by decide)) (whole.value.widen (by decide))

def text (r : BasisPoints) : String := toString r.value ++ "bps"

instance : ToString BasisPoints := ⟨text⟩

end BasisPoints

/-! ## Position units -/

/-- **A position unit** (`types::Unit`). -/
@[ext]
structure PositionUnit where
  value : IntWord 128
deriving DecidableEq

namespace PositionUnit

instance : ToString PositionUnit := ⟨fun u => toString u.value⟩

def zero : PositionUnit := ⟨0⟩

/-- An asset's unit of the given size (`Unit::positive`). -/
def positive (size : Amount) : Except MathError PositionUnit :=
  (MathError.overflowing (IntWord.ofInt? 128 size.toNat)).map PositionUnit.mk

/-- A debt's unit of the given size (`Unit::negative`). -/
def negative (size : Amount) : Except MathError PositionUnit :=
  if h : size.toNat < 1 <<< 127 then
    .ok ⟨⟨-size.toNat, by simp only [Nat.add_one_sub_one]; omega,
      by simp only [Nat.reduceSub]; omega⟩⟩
  else .error .overflow

/-- The size of the unit, whichever its sign. -/
def magnitude (u : PositionUnit) : Amount :=
  ⟨u.value.toInt.natAbs, by
    have hge := u.value.isGe
    have hlt := u.value.isLt
    simp only [Nat.reduceSub] at hge hlt
    omega⟩

def isZero (u : PositionUnit) : Bool := u.value.toInt = 0

def isPositive (u : PositionUnit) : Bool := 0 < u.value.toInt

def isNegative (u : PositionUnit) : Bool := u.value.toInt < 0

def add (u v : PositionUnit) : Except MathError PositionUnit :=
  (MathError.overflowing (u.value.add? v.value)).map PositionUnit.mk

/-! ### Units and notionals -/

/-- The size of the notional at the given supply, rounded down (`position::notional_magnitude`). -/
def notionalSize (u : PositionUnit) (supply : Amount) : Except MathError Amount :=
  Amount.preciseMul u.magnitude supply

/-- The size of the notional at the given supply, rounded up
(`position::notional_magnitude_ceil`). -/
def notionalSizeUp (u : PositionUnit) (supply : Amount) : Except MathError Amount :=
  Amount.preciseMulUp u.magnitude supply

/-- The notional at the given supply, rounded toward zero (`position::notional_from_unit`). -/
def notional (u : PositionUnit) (supply : Amount) : Except MathError (IntWord 128) := do
  let size ← u.notionalSize supply
  let unsigned ← if u.isNegative then negative size else positive size
  pure unsigned.value

/-- The unit of an asset holding, rounded down (`position::unit_from_notional`). -/
def ofHolding (holding supply : Amount) : Except MathError PositionUnit := do
  positive (← Amount.preciseDiv holding supply)

/-- The unit of a debt, rounded away from zero (`position::debt_unit_from_notional`). -/
def ofDebt (debt supply : Amount) : Except MathError PositionUnit := do
  negative (← Amount.preciseDivUp debt supply)

end PositionUnit

/-! ## Points in time -/

/-- **An instant** (`types::Timestamp`). -/
@[ext]
structure Instant where
  millis : IntWord 64
deriving DecidableEq

namespace Instant

/-- The epoch itself. -/
def epoch : Instant := ⟨0⟩

/-- Whole seconds from the epoch, cut off toward it (`Timestamp::as_secs`). -/
def seconds (t : Instant) : Int := t.millis.toInt.tdiv 1000

/-- The instant `delay` milliseconds later, if it can be told. -/
def later? (t : Instant) (delay : IntWord 64) : Option Instant :=
  (t.millis.add? delay).map Instant.mk

end Instant

end LeveredBasket
