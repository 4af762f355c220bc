/-
Decimal numerals.

A decimal is a whole number of units in some decimal place. Its text has a
point only if it has places, and always at least one digit before the point.
`Decimal.trimmed` drops the zeros at the end without changing the value.

Token quantities are shown through decimals of a limited size: at most 28
places and a whole number below 2 ^ 96. A quantity outside these limits is
shown as the largest decimal, also where trimming would have made it fit.
-/
import LeveredBasket.FixedPoint

set_option autoImplicit false

namespace LeveredBasket

/-- The digits of `n` in the given base, with zeros in front up to `width`. -/
def paddedDigits (base width n : Nat) : List Char :=
  let digits := Nat.toDigits base n
  List.replicate (width - digits.length) '0' ++ digits

/-- `0x` and the hexadecimal digits of `n`, with zeros in front up to `width`. -/
def hexText (width n : Nat) : String := "0x" ++ String.ofList (paddedDigits 16 width n)

/-- **A decimal**: `units` of the decimal place number `places`. -/
structure Decimal where
  units : Nat
  places : Nat
deriving DecidableEq

namespace Decimal

/-- The numeral: digits, and a point in front of the last `places` of them if there are any. -/
def digits (d : Decimal) : List Char :=
  -- one digit more than there are places, so that one stands before the point
  let all := paddedDigits 10 (d.places + 1) d.units
  if d.places = 0 then all
  else all.take (all.length - d.places) ++ '.' :: all.drop (all.length - d.places)

def text (d : Decimal) : String := String.ofList d.digits

/-- `units` of place number `places`, with no zero at the end of the places. -/
def trimmed (units : Nat) : Nat → Decimal
  | 0 => ⟨units, 0⟩
  | places + 1 =>
    if units % 10 = 0 then trimmed (units / 10) places else ⟨units, places + 1⟩

/-- How many places a decimal may have. -/
def maxPlaces : Nat := 28

/-- The largest decimal. -/
def largest : Decimal := ⟨(1 <<< 96) - 1, 0⟩

/-- **A token quantity in whole tokens**, for a token with `places` decimals
(`types::format_units`). -/
def ofAmount (amount : Amount) (places : Nat) : Decimal :=
  if amount.toNat ≤ largest.units ∧ places ≤ maxPlaces then trimmed amount.toNat places
  else largest

end Decimal

end LeveredBasket
