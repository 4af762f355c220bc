/-
Binary numbers of double precision, and their decimal text.

A finite value is a whole number below 2 ^ 53 times a power of two. `ofRatio`
rounds a fraction to the nearest such value, a tie to the even one. The text of
a value is the shortest decimal that is read back as that value, of those the
nearest, and of two equally near the larger in magnitude; it is written out in
full, never with an exponent.
-/
import LeveredBasket.Decimal

set_option autoImplicit false

namespace LeveredBasket

/-- **A number of double precision.** -/
inductive Binary64 where
  | nan
  | infinite (negative : Bool)
  /-- The number `mantissa * 2 ^ exponent`, with the given sign. -/
  | finite (negative : Bool) (mantissa : Nat) (exponent : Int)
deriving DecidableEq

namespace Binary64

/-- A power as a fraction: numerator and denominator. -/
def powerRatio (base : Nat) (exponent : Int) : Nat × Nat :=
  if exponent < 0 then (1, Nat.pow base exponent.natAbs) else (Nat.pow base exponent.natAbs, 1)

/-- The lowest exponent. -/
def minExponent : Int := -1074

/-- The fraction `num / den` in units of `2 ^ exponent`: the whole units, and the nearest whole
number of them, a tie going to the even one. -/
def unitsOf (num den : Nat) (exponent : Int) : Nat × Nat :=
  let (up, down) := powerRatio 2 exponent
  let n := num * down
  let d := den * up
  let q := n / d
  let r := n % d
  (q, if 2 * r < d then q else if d < 2 * r then q + 1 else q + q % 2)

/-- The magnitude nearest to a fraction, as mantissa and exponent; none if it is too large. -/
def magnitudeOfRatio (num den : Nat) : Option (Nat × Int) :=
  if num = 0 then some (0, 0)
  else
    -- from the binary digits of both numbers the exponent is known up to one
    let guess := max minExponent ((Nat.log2 num : Int) - Nat.log2 den - 53)
    let exponent := if (unitsOf num den guess).1 < 1 <<< 53 then guess else guess + 1
    let m := (unitsOf num den exponent).2
    -- rounding up may need one digit more
    let (m, exponent) := if m = 1 <<< 53 then (1 <<< 52, exponent + 1) else (m, exponent)
    if m = 0 then some (0, 0)
    else if 971 < exponent then none
    else some (m, exponent)

/-- The value nearest to a fraction with a sign. -/
def ofRatio (negative : Bool) (num den : Nat) : Binary64 :=
  match magnitudeOfRatio num den with
  | some (m, e) => .finite negative m e
  | none => .infinite negative

/-- The value nearest to `mantissa * 10 ^ exponent` with a sign. Beyond any value of this precision
the power is not worked out. -/
def ofDecimal (negative : Bool) (mantissa : Nat) (exponent : Int) : Binary64 :=
  let magnitude := exponent + (Nat.toDigits 10 mantissa).length
  if mantissa = 0 ∨ magnitude < -330 then .finite negative 0 0
  else if 330 < magnitude then .infinite negative
  else
    let (up, down) := powerRatio 10 exponent
    ofRatio negative (mantissa * up) down

/-! ## Whole numbers -/

/-- The nearest natural number up to `limit`, a tie going up; zero for what is negative or no
number at all. -/
def toNatUpTo (limit : Nat) : Binary64 → Nat
  | nan => 0
  | infinite negative => if negative then 0 else limit
  | finite true _ _ => 0
  | finite false m e =>
    let (up, down) := powerRatio 2 e
    -- a half on top, rounded down
    min limit ((2 * m * up + down) / (2 * down))

def isZero : Binary64 → Bool
  | finite _ m _ => m = 0
  | _ => false

/-! ## Text -/

/-- The multiples of `10 ^ place` on either side of a magnitude. -/
def neighbours (m : Nat) (e place : Int) : List Nat :=
  let (up2, down2) := powerRatio 2 e
  let (up10, down10) := powerRatio 10 place
  let q := m * up2 * down10 / (down2 * up10)
  [q, q + 1]

/-- How far a multiple of `10 ^ place` is from a magnitude, as a numerator over a denominator that
depends on the place only. -/
def distance (m : Nat) (e place : Int) (multiple : Nat) : Nat :=
  let (up2, down2) := powerRatio 2 e
  let (up10, down10) := powerRatio 10 place
  let a := m * up2 * down10
  let b := multiple * down2 * up10
  max a b - min a b

/-- The nearer of those neighbours on a decimal place that are read back as the magnitude; the
larger one if both are equally near. -/
def onPlace? (m : Nat) (e place : Int) : Option Nat :=
  let readsBack (multiple : Nat) : Bool :=
    let (up, down) := powerRatio 10 place
    magnitudeOfRatio (multiple * up) down = some (m, e)
  match (neighbours m e place).filter readsBack with
  | [a] => some a
  | [a, b] => some (if distance m e place a < distance m e place b then a else b)
  | _ => none

/-- The first place on which the magnitude can be told, from `place` down. -/
def shortestFrom (m : Nat) (e : Int) : (steps : Nat) → (place : Int) → Nat × Int
  | 0, place => ((neighbours m e place).headD 0, place)
  | steps + 1, place =>
    match onPlace? m e place with
    | some multiple => (multiple, place)
    | none => shortestFrom m e steps (place - 1)

/-- The shortest decimal that tells a magnitude: a multiple of a power of ten. From the place
above its first digit it takes at most eighteen more. -/
def shortest (m : Nat) (e : Int) : Nat × Int :=
  let (up, down) := powerRatio 2 e
  -- the place above the first digit, which may be in front of the point or behind it
  let top : Int :=
    if down ≤ m * up then (Nat.toDigits 10 (m * up / down)).length
    else 1 - ((Nat.toDigits 10 (down / (m * up))).length : Int)
  shortestFrom m e 20 top

/-- The text of a magnitude. -/
def magnitudeText (m : Nat) (e : Int) : String :=
  if m = 0 then "0"
  else
    let (multiple, place) := shortest m e
    if place < 0 then (Decimal.trimmed multiple place.natAbs).text
    else (Decimal.mk (multiple * Nat.pow 10 place.natAbs) 0).text

def text : Binary64 → String
  | nan => "NaN"
  | infinite negative => if negative then "-inf" else "inf"
  | finite negative m e => (if negative then "-" else "") ++ magnitudeText m e

end Binary64

end LeveredBasket
