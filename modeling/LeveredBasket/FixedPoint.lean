/-
Amounts and the fixed-point arithmetic on them.

A product of two amounts may need twice their width before it is divided, so
`mulDivDown` and `mulDivUp` multiply in 256 binary digits and only a quotient
wider than 128 is an error. `mulDivDown_eq` and `mulDivUp_eq` say that the wide
step never fails: what is left is the exact quotient, if it fits.

Every operation names the direction in which it rounds. A divisor of zero is
reported before anything else.
-/
import LeveredBasket.Word

set_option autoImplicit false

namespace LeveredBasket

/-- A quantity of a token in its smallest denomination. -/
abbrev Amount := Word 128

/-! ## Errors -/

/-- Why an amount could not be computed (`math::MathError`). -/
inductive MathError where
  | overflow
  | divisionByZero
  | underflow
deriving DecidableEq

namespace MathError

def message : MathError → String
  | overflow => "Arithmetic overflow"
  | divisionByZero => "Division by zero"
  | underflow => "Arithmetic underflow"

instance : ToString MathError := ⟨message⟩

/-- The name under which the error is reported. -/
def name : MathError → String
  | overflow => "Overflow"
  | divisionByZero => "DivisionByZero"
  | underflow => "Underflow"

/-- A result that may not fit: what does not fit is an overflow. -/
def overflowing {α : Type} : Option α → Except MathError α
  | some a => .ok a
  | none => .error .overflow

end MathError

open MathError (overflowing)

namespace Amount

/-! ## Sums and differences (`math::checked_add`, `math::checked_sub`) -/

def add (a b : Amount) : Except MathError Amount := overflowing (a.add? b)

def sub (a b : Amount) : Except MathError Amount :=
  match a.sub? b with
  | some c => .ok c
  | none => .error .underflow

/-! ## A product over a divisor -/

/-- An amount with room for a product. -/
def wide (a : Amount) : Word 256 := a.widen (by decide)

/-- `a * b / d`, rounded down (`math::mul_div_down`). -/
def mulDivDown (a b d : Amount) : Except MathError Amount :=
  if d = 0 then .error .divisionByZero
  else do
    let product ← overflowing ((wide a).mul? (wide b))
    overflowing (Word.ofNat? 128 (product.toNat / d.toNat))

/-- `a * b / d`, rounded up (`math::mul_div_up`). -/
def mulDivUp (a b d : Amount) : Except MathError Amount :=
  if d = 0 then .error .divisionByZero
  else do
    let product ← overflowing ((wide a).mul? (wide b))
    -- one less than the divisor on top makes the quotient that rounds down round up
    let numerator ← overflowing (product.add? ((wide d).truncatedSub 1))
    overflowing (Word.ofNat? 128 (numerator.toNat / d.toNat))

/-! ## Numbers with eighteen decimals -/

/-- One, in numbers with eighteen decimals (`PRECISE_UNIT`). -/
def one : Amount := ⟨1_000_000_000_000_000_000, by decide⟩

/-- The product of two numbers with eighteen decimals, rounded down (`math::precise_mul`). -/
def preciseMul (a b : Amount) : Except MathError Amount := mulDivDown a b one

/-- The product of two numbers with eighteen decimals, rounded up (`math::precise_mul_ceil`). -/
def preciseMulUp (a b : Amount) : Except MathError Amount := mulDivUp a b one

/-- The quotient of two numbers with eighteen decimals, rounded down (`math::precise_div`). -/
def preciseDiv (a b : Amount) : Except MathError Amount := mulDivDown a one b

/-- The quotient of two numbers with eighteen decimals, rounded up (`math::precise_div_ceil`). -/
def preciseDivUp (a b : Amount) : Except MathError Amount := mulDivUp a one b

/-! ## The wide step never fails -/

theorem mul_lt_wide (a b : Amount) : a.toNat * b.toNat < 1 <<< 256 :=
  calc a.toNat * b.toNat < 1 <<< 128 * 1 <<< 128 := Nat.mul_lt_mul'' a.isLt b.isLt
    _ = 1 <<< 256 := by decide

theorem mul_add_lt_wide (a b d : Amount) :
    a.toNat * b.toNat + (d.toNat - 1) < 1 <<< 256 := by
  have ha : a.toNat ≤ 1 <<< 128 - 1 := Nat.le_sub_one_of_lt a.isLt
  have hb : b.toNat ≤ 1 <<< 128 - 1 := Nat.le_sub_one_of_lt b.isLt
  have hab : a.toNat * b.toNat ≤ (1 <<< 128 - 1) * (1 <<< 128 - 1) := Nat.mul_le_mul ha hb
  -- the largest product is so far below the width that a divisor still fits on top
  have hsquare : (1 <<< 128 - 1) * (1 <<< 128 - 1) + 2 * 1 <<< 128 = 1 <<< 256 + 1 := by decide
  have hd := d.isLt
  omega

theorem mul?_wide (a b : Amount) :
    (wide a).mul? (wide b) = some ⟨a.toNat * b.toNat, mul_lt_wide a b⟩ :=
  Word.ofNat?_eq_some.2 rfl

theorem add?_wide (a b d : Amount) :
    Word.add? (⟨a.toNat * b.toNat, mul_lt_wide a b⟩ : Word 256) ((wide d).truncatedSub 1) =
      some ⟨a.toNat * b.toNat + (d.toNat - 1), mul_add_lt_wide a b d⟩ :=
  Word.ofNat?_eq_some.2 rfl

theorem mulDivDown_eq (a b : Amount) {d : Amount} (hd : d ≠ 0) :
    mulDivDown a b d = overflowing (Word.ofNat? 128 (a.toNat * b.toNat / d.toNat)) := by
  simp [mulDivDown, hd, mul?_wide, overflowing, bind, Except.bind]

theorem mulDivUp_eq (a b : Amount) {d : Amount} (hd : d ≠ 0) :
    mulDivUp a b d =
      overflowing (Word.ofNat? 128 ((a.toNat * b.toNat + (d.toNat - 1)) / d.toNat)) := by
  simp [mulDivUp, hd, mul?_wide, add?_wide, overflowing, bind, Except.bind]

end Amount

end LeveredBasket
