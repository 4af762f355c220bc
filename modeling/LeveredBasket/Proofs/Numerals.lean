/-
The text of a token quantity (`types::format_units`) is exact.

A numeral is a whole number in digits, or such a number, a point and further digits of which
the last is no zero; `Decimal.Numeral` says so, and what number is meant. A text is the numeral
of one number at most, for the point is where the digits first end.

The digits of `Decimal.digits` are cut where the places begin. `paddedDigits_ten` tells what
stands on each side of the cut, by induction on the places: one more of them takes the last
digit from the number in front. Since `Decimal.trimmed` changes no value and leaves no zero at
the end, each quantity within the limits is told by its text (`Decimal.ofAmount_exact`), and any
other one is shown as the largest decimal.
-/
import Mathlib.Algebra.Order.Field.Rat
import Mathlib.Data.List.Basic
import Mathlib.Tactic.FieldSimp
import Mathlib.Tactic.NormNum
import LeveredBasket.Decimal
import LeveredBasket.Proofs.FixedPoint

set_option autoImplicit false

namespace LeveredBasket

/-! ## The last digits of a number -/

/-- The last `places` digits of a number. -/
def lastDigits : Nat → Nat → List Char
  | 0, _ => []
  | places + 1, n => lastDigits places (n / 10) ++ [(n % 10).digitChar]

theorem length_lastDigits (places n : Nat) : (lastDigits places n).length = places := by
  induction places generalizing n with
  | zero => rfl
  | succ places ih =>
    rw [lastDigits, List.length_append, ih]
    rfl

theorem isDigit_digitChar (n : Nat) : (n % 10).digitChar.isDigit = true := by
  have hdigits : ∀ d < 10, d.digitChar.isDigit = true := by decide
  exact hdigits _ (Nat.mod_lt n (by decide))

theorem isDigit_of_mem_lastDigits {places n : Nat} {c : Char} (h : c ∈ lastDigits places n) :
    c.isDigit = true := by
  induction places generalizing n with
  | zero => cases h
  | succ places ih =>
    rcases List.mem_append.1 h with hfront | hlast
    · exact ih hfront
    · rw [List.mem_singleton.1 hlast]
      exact isDigit_digitChar n

/-- They are read as what is left of the number. -/
theorem ofDigitChars_lastDigits (places n : Nat) :
    Nat.ofDigitChars 10 (lastDigits places n) 0 = n % 10 ^ places := by
  induction places generalizing n with
  | zero => exact (Nat.mod_one n).symm
  | succ places ih =>
    have hlast : n % 10 < 10 := Nat.mod_lt n (by decide)
    rw [lastDigits, Nat.ofDigitChars_append, ih, Nat.ofDigitChars_cons_digitChar_of_lt_ten hlast,
      Nat.ofDigitChars_nil, Nat.pow_succ', Nat.mod_mul, Nat.add_comm]

/-- The last of them is a zero only if the number ends in one. -/
theorem getLast?_lastDigits (places : Nat) {n : Nat} (hn : n % 10 ≠ 0) :
    (lastDigits (places + 1) n).getLast? ≠ some '0' := by
  have hdigits : ∀ d < 10, d ≠ 0 → d.digitChar ≠ '0' := by decide
  rw [lastDigits, List.getLast?_concat]
  intro hzero
  exact hdigits _ (Nat.mod_lt n (by decide)) hn (Option.some.inj hzero)

/-- One digit more is one more at the end, as long as there is one in front. -/
theorem paddedDigits_succ (width n : Nat) :
    paddedDigits 10 (width + 2) n =
      paddedDigits 10 (width + 1) (n / 10) ++ [(n % 10).digitChar] := by
  by_cases hsmall : n < 10
  · have hnone : n / 10 = 0 := Nat.div_eq_of_lt hsmall
    simp only [paddedDigits, hnone, Nat.toDigits_zero, Nat.toDigits_of_lt_base hsmall,
      Nat.mod_eq_of_lt hsmall, List.length_singleton, Nat.add_one_sub_one]
    rw [List.replicate_succ']
  · have hdigits := Nat.toDigits_of_base_le (b := 10) (by decide) (Nat.le_of_not_lt hsmall)
    have hzeros : width + 2 - ((Nat.toDigits 10 (n / 10)).length + 1) =
        width + 1 - (Nat.toDigits 10 (n / 10)).length := Nat.add_sub_add_right _ 1 _
    simp only [paddedDigits, hdigits, List.length_append, List.length_singleton, hzeros,
      List.append_assoc]

/-- **Enough digits are the whole number's and then those of the places.** -/
theorem paddedDigits_ten (places n : Nat) :
    paddedDigits 10 (places + 1) n =
      Nat.toDigits 10 (n / 10 ^ places) ++ lastDigits places n := by
  induction places generalizing n with
  | zero =>
    have hfilled : 1 - (Nat.toDigits 10 n).length = 0 :=
      Nat.sub_eq_zero_of_le Nat.length_toDigits_pos
    simp only [paddedDigits, Nat.zero_add, hfilled, List.replicate_zero, List.nil_append,
      Nat.pow_zero, Nat.div_one, lastDigits, List.append_nil]
  | succ places ih =>
    rw [paddedDigits_succ, ih, Nat.div_div_eq_div_mul, ← Nat.pow_succ', lastDigits,
      List.append_assoc]

namespace Decimal

/-! ## Numerals -/

/-- **What number a text is the numeral of**: digits with no zero to spare in front, and after
them nothing, or a point and places of which the last is no zero. -/
inductive Numeral : List Char → ℚ → Prop
  | whole (n : Nat) : Numeral (Nat.toDigits 10 n) n
  | pointed (n : Nat) {places : List Char} (hdigits : ∀ c ∈ places, c.isDigit = true)
      (hsome : places ≠ []) (hlast : places.getLast? ≠ some '0') :
      Numeral (Nat.toDigits 10 n ++ '.' :: places)
        (n + Nat.ofDigitChars 10 places 0 / 10 ^ places.length)

theorem point_notMem {digits : List Char} (h : ∀ c ∈ digits, c.isDigit = true) :
    '.' ∉ digits := by
  intro hmem
  exact absurd (h _ hmem) (by decide)

theorem point_notMem_toDigits (n : Nat) : '.' ∉ Nat.toDigits 10 n :=
  point_notMem fun _ hc => Nat.isDigit_of_mem_toDigits (by decide) (by decide) hc

theorem toDigits_inj {m n : Nat} (h : Nat.toDigits 10 m = Nat.toDigits 10 n) : m = n := by
  rw [← Nat.ofDigitChars_ten_toDigits (n := m), h, Nat.ofDigitChars_ten_toDigits]

/-- **A text is the numeral of one number at most.** -/
theorem Numeral.unique {text : List Char} {x y : ℚ} (hx : Numeral text x) (hy : Numeral text y) :
    x = y := by
  generalize htext : text = other at hy
  cases hx with
  | whole m =>
    cases hy with
    | whole n => rw [toDigits_inj htext]
    | pointed n =>
      refine absurd ?_ (point_notMem_toDigits m)
      rw [htext]
      exact List.mem_append_right _ List.mem_cons_self
  | pointed m hdigits =>
    cases hy with
    | whole n =>
      refine absurd ?_ (point_notMem_toDigits n)
      rw [← htext]
      exact List.mem_append_right _ List.mem_cons_self
    | pointed n =>
      obtain ⟨hwhole, -, hplaces⟩ := (List.append_cons_inj_of_notMem (point_notMem_toDigits m)
        (point_notMem hdigits)).1 htext
      rw [toDigits_inj hwhole, hplaces]

/-! ## Decimals -/

/-- The number that a decimal stands for. -/
def value (d : Decimal) : ℚ := d.units / 10 ^ d.places

/-- The number cut at the point. -/
theorem value_eq (d : Decimal) : d.value = (d.units / 10 ^ d.places : Nat) +
    Nat.ofDigitChars 10 (lastDigits d.places d.units) 0 /
      10 ^ (lastDigits d.places d.units).length := by
  have hpow : ((10 : ℚ) ^ d.places) ≠ 0 := pow_ne_zero _ (by norm_num)
  have hsplit := Nat.div_add_mod d.units (10 ^ d.places)
  rw [ofDigitChars_lastDigits, length_lastDigits, value]
  field_simp
  exact_mod_cast hsplit.symm

/-- The text cut at the point. -/
theorem digits_eq {d : Decimal} (h : d.places ≠ 0) :
    d.digits = Nat.toDigits 10 (d.units / 10 ^ d.places) ++ '.' :: lastDigits d.places d.units := by
  have hcut : (paddedDigits 10 (d.places + 1) d.units).length - d.places =
      (Nat.toDigits 10 (d.units / 10 ^ d.places)).length := by
    rw [paddedDigits_ten, List.length_append, length_lastDigits, Nat.add_sub_cancel]
  simp only [digits, if_neg h, hcut]
  rw [paddedDigits_ten, List.take_left, List.drop_left]

/-- **A decimal with no zero at the end of its places is shown by its numeral.** -/
theorem numeral_digits {d : Decimal} (h : d.places ≠ 0 → d.units % 10 ≠ 0) :
    Numeral d.digits d.value := by
  obtain ⟨units, places⟩ := d
  cases places with
  | zero =>
    have hdigits : digits ⟨units, 0⟩ = Nat.toDigits 10 units := by
      simp only [digits, if_true, paddedDigits_ten, Nat.pow_zero, Nat.div_one, lastDigits,
        List.append_nil]
    have hvalue : value ⟨units, 0⟩ = units := by
      rw [value, pow_zero, div_one]
    rw [hdigits, hvalue]
    exact .whole units
  | succ places =>
    have hsome : lastDigits (places + 1) units ≠ [] := by
      rw [← List.length_pos_iff, length_lastDigits]
      exact Nat.succ_pos places
    rw [digits_eq (Nat.succ_ne_zero places), value_eq]
    exact .pointed _ (fun c hc => isDigit_of_mem_lastDigits hc) hsome
      (getLast?_lastDigits places (h (Nat.succ_ne_zero places)))

/-- To drop zeros from the end changes no value. -/
theorem value_trimmed (units places : Nat) :
    (trimmed units places).value = units / 10 ^ places := by
  induction places generalizing units with
  | zero => rfl
  | succ places ih =>
    unfold trimmed
    split
    case isTrue hzero =>
      have hunits : (units : ℚ) = (units / 10 : Nat) * 10 := by
        exact_mod_cast (Nat.div_mul_cancel (Nat.dvd_of_mod_eq_zero hzero)).symm
      rw [ih, hunits, pow_succ, mul_div_mul_right _ _ (by norm_num)]
    case isFalse => rfl

/-- It leaves none. -/
theorem trimmed_units (units places : Nat) (h : (trimmed units places).places ≠ 0) :
    (trimmed units places).units % 10 ≠ 0 := by
  induction places generalizing units with
  | zero => exact absurd rfl h
  | succ places ih =>
    unfold trimmed at h ⊢
    split at h
    case isTrue hzero =>
      rw [if_pos hzero]
      exact ih _ h
    case isFalse hlast =>
      rw [if_neg hlast]
      exact hlast

/-- **Trimmed, a number of units is shown by the numeral of its value.** -/
theorem numeral_trimmed (units places : Nat) :
    Numeral (trimmed units places).text.toList (units / 10 ^ places) := by
  rw [text, String.toList_ofList, ← value_trimmed]
  exact numeral_digits (trimmed_units units places)

/-! ## Token quantities (`types::format_units`) -/

/-- A quantity within the limits is shown by the numeral of what it is in whole tokens. -/
theorem numeral_ofAmount {amount : Amount} {places : Nat} (hamount : amount.toNat < 1 <<< 96)
    (hplaces : places ≤ 28) :
    Numeral (ofAmount amount places).text.toList (amount.toNat / 10 ^ places) := by
  rw [ofAmount, if_pos ⟨Nat.le_sub_one_of_lt hamount, hplaces⟩]
  exact numeral_trimmed _ _

/-- Beyond them, it is shown as the largest decimal. -/
theorem ofAmount_beyond {amount : Amount} {places : Nat}
    (h : ¬ (amount.toNat < 1 <<< 96 ∧ places ≤ 28)) : ofAmount amount places = largest := by
  rw [ofAmount, if_neg]
  rintro ⟨hamount, hplaces⟩
  exact h ⟨Nat.lt_of_le_sub_one (by decide) hamount, hplaces⟩

/-- **The text of a token quantity is exact.** Below `2 ^ 96` and with at most 28 decimals it is
the numeral of the quantity in whole tokens, and of no other quantity of the token; in all other
cases it is that of the largest decimal. -/
theorem ofAmount_exact (amount : Amount) (places : Nat) :
    (amount.toNat < 1 <<< 96 ∧ places ≤ 28 →
      Numeral (ofAmount amount places).text.toList (amount.toNat / 10 ^ places) ∧
      ∀ other : Amount, other.toNat < 1 <<< 96 →
        (ofAmount other places).text = (ofAmount amount places).text → other = amount) ∧
    (¬ (amount.toNat < 1 <<< 96 ∧ places ≤ 28) →
      (ofAmount amount places).text = "79228162514264337593543950335") := by
  constructor
  · rintro ⟨hamount, hplaces⟩
    have hnumeral := numeral_ofAmount hamount hplaces
    refine ⟨hnumeral, fun other hother htext => ?_⟩
    have hpow : ((10 : ℚ) ^ places) ≠ 0 := pow_ne_zero _ (by norm_num)
    have hnumeral' := numeral_ofAmount hother hplaces
    rw [htext] at hnumeral'
    have hvalues := (div_left_inj' hpow).1 (hnumeral'.unique hnumeral)
    exact Word.ext (Nat.cast_injective hvalues)
  · intro hbeyond
    rw [ofAmount_beyond hbeyond]
    decide

/-- So one and a half million parts, at six decimals, are one and a half. A number of `10 ^ 29`
tenths is beyond the limits, though without the zero at its end it would be within them. -/
theorem ofAmount_exact_of_fraction : ∃ fraction beyond : Amount,
    fraction.toNat = 1_500_000 ∧ fraction.toNat < 1 <<< 96 ∧
    (ofAmount fraction 6).text = "1.5" ∧ Numeral "1.5".toList (1_500_000 / 10 ^ 6) ∧
    beyond.toNat = 10 * 10_000_000_000_000_000_000_000_000_000 ∧
    10_000_000_000_000_000_000_000_000_000 < 1 <<< 96 ∧
    (ofAmount beyond 1).text = "79228162514264337593543950335" := by
  let fraction : Amount := ⟨1_500_000, by decide⟩
  let beyond : Amount := ⟨10 * 10_000_000_000_000_000_000_000_000_000, by decide⟩
  have hfits : fraction.toNat < 1 <<< 96 := by decide
  have htext : (ofAmount fraction 6).text = "1.5" := by decide
  obtain ⟨hnumeral, -⟩ := (ofAmount_exact fraction 6).1 ⟨hfits, by decide⟩
  rw [htext] at hnumeral
  have hbeyond : ¬ (beyond.toNat < 1 <<< 96 ∧ 1 ≤ 28) := by decide
  exact ⟨fraction, beyond, rfl, hfits, htext, mod_cast hnumeral, rfl, by decide,
    (ofAmount_exact beyond 1).2 hbeyond⟩

end Decimal

end LeveredBasket
