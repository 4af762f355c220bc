/-
A product over a divisor (`math::mul_div_down`, `math::mul_div_up`) is exact over
the whole range of amounts.

What it ought to be is a rational number (`Amount.quotient`), rounded to a whole one by the
floor or by the ceiling. `IsQuotient` says when a computation answers as it should: that number
wherever it fits, an overflow where it does not, and a refusal of the divisor zero before both.

The quotient is taken from a product in twice the width, and the one that is rounded up has one
less than the divisor added before. `Widened` says that neither of these steps ever leaves the
width, however large the three amounts are, so that every overflow there is comes from the
quotient. It need not come from both of them: `overflows_up_only_iff` tells where the floor is
the last amount there is and the ceiling the first that is none.
-/
import Mathlib.Algebra.Order.Floor.Semifield
import Mathlib.Data.Rat.Floor
import LeveredBasket.Proofs.FixedPoint

set_option autoImplicit false

namespace LeveredBasket

open MathError (overflowing)

namespace Amount

/-! ## What is asked of the answer -/

/-- The number that a product over a divisor stands for, before it is rounded. -/
def quotient (a b d : Amount) : ℚ := a.toNat * b.toNat / d.toNat

/-- **A computation answers with the quotient `n` of a division by `d`.** -/
structure IsQuotient (d : Amount) (n : Nat) (x : Except MathError Amount) : Prop where
  /-- The divisor zero is what is refused as a division by zero. -/
  divisionByZero : x = .error .divisionByZero ↔ d = 0
  /-- A quotient that fits is the answer. -/
  fits : d ≠ 0 → ∀ h : n < 1 <<< 128, x = .ok ⟨n, h⟩
  /-- A quotient that does not fit is what overflows. -/
  overflow : x = .error .overflow ↔ d ≠ 0 ∧ 1 <<< 128 ≤ n

/-- **Both wide steps go through**, to the exact product and to one less than the divisor on top of
it. All that is left of a division is then to narrow a quotient. -/
structure Widened (a b d : Amount) (product numerator : Word 256) : Prop where
  mul : (wide a).mul? (wide b) = some product
  toNat_product : product.toNat = a.toNat * b.toNat
  add : product.add? ((wide d).truncatedSub 1) = some numerator
  toNat_numerator : numerator.toNat = a.toNat * b.toNat + (d.toNat - 1)
  down : d ≠ 0 → mulDivDown a b d = overflowing (Word.ofNat? 128 (product.toNat / d.toNat))
  up : d ≠ 0 → mulDivUp a b d = overflowing (Word.ofNat? 128 (numerator.toNat / d.toNat))

variable {a b c d : Amount}

/-! ## The exact quotient in whole numbers -/

theorem quotient_eq (a b d : Amount) :
    quotient a b d = ((a.toNat * b.toNat : Nat) : ℚ) / d.toNat := by
  rw [quotient, Nat.cast_mul]

theorem quotient_nonneg (a b d : Amount) : 0 ≤ quotient a b d := by
  rw [quotient_eq]
  positivity

theorem floor_quotient (a b d : Amount) :
    ⌊quotient a b d⌋₊ = a.toNat * b.toNat / d.toNat := by
  rw [quotient_eq, Nat.floor_div_eq_div]

/-- The ceiling is the least number that comes to the product when it is multiplied again. -/
theorem ceil_quotient (a b : Amount) (hd : d ≠ 0) :
    ⌈quotient a b d⌉₊ = (a.toNat * b.toNat) ⌈/⌉ d.toNat := by
  have hpos : 0 < d.toNat := toNat_pos_iff.2 hd
  refine eq_of_forall_ge_iff fun n => ?_
  calc ⌈quotient a b d⌉₊ ≤ n ↔ quotient a b d ≤ n := Nat.ceil_le
    _ ↔ ((a.toNat * b.toNat : Nat) : ℚ) ≤ n * d.toNat := by
      rw [quotient_eq, div_le_iff₀ (Nat.cast_pos.2 hpos)]
    _ ↔ a.toNat * b.toNat ≤ d.toNat * n := by
      rw [← Nat.cast_mul, Nat.cast_le, Nat.mul_comm n]
    _ ↔ (a.toNat * b.toNat) ⌈/⌉ d.toNat ≤ n := (ceilDiv_le_iff_le_mul hpos).symm

/-! ## The two roundings -/

namespace IsQuotient

variable {n : Nat} {x : Except MathError Amount}

/-- All that it takes is to check the divisor first and to narrow the quotient after. -/
theorem of_overflowing (hzero : d = 0 → x = .error .divisionByZero)
    (hquot : d ≠ 0 → x = overflowing (Word.ofNat? 128 n)) : IsQuotient d n x := by
  by_cases hd : d = 0
  · obtain rfl := hzero hd
    exact ⟨iff_of_true rfl hd, fun hne => absurd hd hne, by simp [hd]⟩
  · obtain rfl := hquot hd
    refine ⟨?_, fun _ h => overflowing_ofNat?_eq_ok.2 rfl, ?_⟩ <;>
      simp [overflowing_ofNat?_eq_error, hd]

theorem eq_ok (h : IsQuotient d n x) (hd : d ≠ 0) (hc : c.toNat = n) : x = .ok c := by
  subst hc
  exact h.fits hd c.isLt

end IsQuotient

theorem isQuotient_mulDivDown (a b d : Amount) :
    IsQuotient d ⌊quotient a b d⌋₊ (mulDivDown a b d) := by
  refine .of_overflowing (fun hd => by simp [mulDivDown, hd]) fun hd => ?_
  rw [mulDivDown_eq a b hd, floor_quotient]

theorem isQuotient_mulDivUp (a b d : Amount) :
    IsQuotient d ⌈quotient a b d⌉₊ (mulDivUp a b d) := by
  refine .of_overflowing (fun hd => by simp [mulDivUp, hd]) fun hd => ?_
  rw [mulDivUp_eq_ceilDiv a b hd, ceil_quotient a b hd]

/-- **Where only the ceiling overflows**: the exact quotient lies between the largest amount and the
number after it. -/
theorem overflows_up_only_iff (hd : d ≠ 0) :
    (mulDivUp a b d = .error .overflow ∧ mulDivDown a b d ≠ .error .overflow) ↔
      ((Word.largest 128).toNat : ℚ) < quotient a b d ∧
        quotient a b d < (1 <<< 128 : Nat) := by
  have hup : 1 <<< 128 ≤ ⌈quotient a b d⌉₊ ↔
      ((Word.largest 128).toNat : ℚ) < quotient a b d := by
    rw [← Nat.lt_ceil]
    exact Nat.lt_iff_add_one_le.symm
  have hdown : 1 <<< 128 ≤ ⌊quotient a b d⌋₊ ↔ ((1 <<< 128 : Nat) : ℚ) ≤ quotient a b d :=
    Nat.le_floor_iff (quotient_nonneg a b d)
  rw [Ne, (isQuotient_mulDivUp a b d).overflow, (isQuotient_mulDivDown a b d).overflow,
    and_iff_right hd, and_iff_right hd, hup, hdown, not_le]

/-! ## Exactness -/

theorem exists_widened (a b d : Amount) : ∃ product numerator, Widened a b d product numerator :=
  ⟨_, _, mul?_wide a b, rfl, add?_wide a b d, rfl, mulDivDown_eq a b, mulDivUp_eq a b⟩

/-- **A product over a divisor is exact over the whole range.** It is the floor or the ceiling of
the exact quotient wherever that fits, and nothing but a quotient that does not fit overflows. -/
theorem mulDiv_exact (a b d : Amount) :
    IsQuotient d ⌊quotient a b d⌋₊ (mulDivDown a b d) ∧
      IsQuotient d ⌈quotient a b d⌉₊ (mulDivUp a b d) ∧
      ∃ product numerator, Widened a b d product numerator :=
  ⟨isQuotient_mulDivDown a b d, isQuotient_mulDivUp a b d, exists_widened a b d⟩

/-- So it is for the largest amounts, whose quotient is the largest amount again; and for an odd
product, half of which is the largest amount if it is rounded down and overflows if it is rounded
up. -/
theorem mulDiv_exact_of_largest :
    ∃ largest p q two : Amount, largest.toNat = 1 <<< 128 - 1 ∧ two.toNat = 2 ∧
      p.toNat * q.toNat + 1 = 2 * 1 <<< 128 ∧
      mulDivDown largest largest largest = .ok largest ∧
      mulDivUp largest largest largest = .ok largest ∧
      mulDivDown p q two = .ok largest ∧ mulDivUp p q two = .error .overflow := by
  let largest : Amount := Word.largest 128
  let p : Amount := ⟨8_796_093_022_207, by decide⟩
  let q : Amount := ⟨77_371_252_455_345_063_274_217_473, by decide⟩
  let two : Amount := ⟨2, by decide⟩
  have hlargest : largest ≠ 0 := by decide
  have htwo : two ≠ 0 := by decide
  obtain ⟨hdown, hup, -⟩ := mulDiv_exact largest largest largest
  obtain ⟨hfloor, hceil, -⟩ := mulDiv_exact p q two
  refine ⟨largest, p, q, two, rfl, rfl, by decide, ?_, ?_, ?_, ?_⟩
  · exact hdown.eq_ok hlargest (by rw [floor_quotient]; decide)
  · exact hup.eq_ok hlargest (by rw [ceil_quotient _ _ hlargest]; decide)
  · exact hfloor.eq_ok htwo (by rw [floor_quotient]; decide)
  · exact hceil.overflow.2 ⟨htwo, by rw [ceil_quotient _ _ htwo]; decide⟩

end Amount

end LeveredBasket
