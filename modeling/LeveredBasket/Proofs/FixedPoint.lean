/-
When arithmetic on amounts comes to a result, and to which.

Each operation of `math`, `shares` and `position` has one equivalence: it answers `c`
exactly when the exact number has the value of `c`, divisions being rounded as the
operation says. Nothing is said about widths, because `c` fits by its type. Of the
refusals it is said when they can only mean that a number does not fit (`Defined`): a
sum is always defined, a product over a divisor unless that is zero, and a difference
unless it falls below zero.

Quotients that round up are written with `⌈/⌉`. The two facts about them that
later bounds rest on are `le_ceilDiv_mul` and `ceilDiv_mul_lt`: the quotient times
the divisor is at least the numerator and less than one divisor above it. With
quotients that round down they make adjoint pairs (`ceilDiv_le_iff_le_div`).
-/
import LeveredBasket.Scalars
import LeveredBasket.Share
import Mathlib.Algebra.Order.Floor.Div

set_option autoImplicit false

namespace LeveredBasket

/-! ## Quotients that round up -/

section CeilDiv

variable {d : Nat}

/-- A quotient rounded up is never short of the numerator. -/
theorem le_ceilDiv_mul (n : Nat) (hd : 0 < d) : n ≤ n ⌈/⌉ d * d := by
  rw [Nat.mul_comm]
  exact le_smul_ceilDiv hd

/-- It is less than one divisor too large. -/
theorem ceilDiv_mul_lt (n : Nat) (hd : 0 < d) : n ⌈/⌉ d * d < n + d := by
  rw [Nat.ceilDiv_eq_add_pred_div]
  have h : (n + d - 1) / d * d ≤ n + d - 1 := Nat.div_mul_le_self _ _
  omega

/-- **The two roundings are adjoint**: a quotient rounded up is at most what the other way back,
rounded down, reaches. Both say that one product is at most the other. -/
theorem ceilDiv_le_iff_le_div {x a p q : Nat} (hp : 0 < p) (hq : 0 < q) :
    (x * p) ⌈/⌉ q ≤ a ↔ x ≤ a * q / p := by
  rw [ceilDiv_le_iff_le_mul hq, Nat.le_div_iff_mul_le hp, Nat.mul_comm q a]

end CeilDiv

/-! ## Quotients turned back

A number is multiplied by `b` and divided by `a`, and the quotient is turned back the other
way. If the two divisions round to opposite sides, what comes back misses the number on one
side only, and by less than `a` parts of `b`: by nothing where `a` is at most `b`. -/

section TurnedBack

variable {a b : Nat}

/-- A multiple that is less than the number itself is nothing of it. -/
theorem eq_zero_of_mul_lt {k : Nat} (h : k * b < b) : k = 0 :=
  Nat.lt_one_iff.1 (Nat.lt_of_mul_lt_mul_right (Nat.lt_of_lt_of_eq h (Nat.one_mul b).symm))

/-- Rounded up on the way there, nothing is lost on the way back. -/
theorem le_regained (n : Nat) (hb : 0 < b) (ha : 0 < a) : n ≤ (n * b) ⌈/⌉ a * a / b :=
  (Nat.le_div_iff_mul_le hb).2 (le_ceilDiv_mul _ ha)

/-- No more is gained than the rounding has put in. -/
theorem regained_sub_mul_lt (n b : Nat) (ha : 0 < a) :
    ((n * b) ⌈/⌉ a * a / b - n) * b < a := by
  have hfloor : (n * b) ⌈/⌉ a * a / b * b ≤ (n * b) ⌈/⌉ a * a := Nat.div_mul_le_self _ _
  have hceil : (n * b) ⌈/⌉ a * a < n * b + a := ceilDiv_mul_lt _ ha
  rw [Nat.sub_mul]
  omega

theorem regained_eq (n : Nat) (ha : 0 < a) (hle : a ≤ b) : (n * b) ⌈/⌉ a * a / b = n := by
  have hb : 0 < b := Nat.lt_of_lt_of_le ha hle
  have hnone := eq_zero_of_mul_lt (Nat.lt_of_lt_of_le (regained_sub_mul_lt n b ha) hle)
  have hleast := le_regained n hb ha
  omega

/-- Rounded down on the way there, nothing is gained on the way back. -/
theorem returned_le (n a : Nat) (hb : 0 < b) : (n * b / a * a) ⌈/⌉ b ≤ n := by
  rw [ceilDiv_le_iff_le_mul hb, Nat.mul_comm b n]
  exact Nat.div_mul_le_self _ _

/-- No more is lost than the rounding has left out. -/
theorem sub_returned_mul_lt (n : Nat) (ha : 0 < a) (hb : 0 < b) :
    (n - (n * b / a * a) ⌈/⌉ b) * b < a := by
  have hfloor : n * b < n * b / a * a + a := Nat.lt_div_mul_add ha
  have hceil : n * b / a * a ≤ (n * b / a * a) ⌈/⌉ b * b := le_ceilDiv_mul _ hb
  rw [Nat.sub_mul]
  omega

theorem returned_eq (n : Nat) (ha : 0 < a) (hle : a ≤ b) : (n * b / a * a) ⌈/⌉ b = n := by
  have hb : 0 < b := Nat.lt_of_lt_of_le ha hle
  have hnone := eq_zero_of_mul_lt (Nat.lt_of_lt_of_le (sub_returned_mul_lt n ha hb) hle)
  have hmost := returned_le n a hb
  omega

end TurnedBack

/-! ## Sums, differences and products over a divisor -/

/-- A computation that does not fit is an overflow, and one that fits has the number asked for. -/
theorem overflowing_ofNat?_eq_ok {bits n : Nat} {c : Word bits} :
    MathError.overflowing (Word.ofNat? bits n) = .ok c ↔ c.toNat = n := by
  rw [← Word.ofNat?_eq_some]
  cases Word.ofNat? bits n <;> simp [MathError.overflowing]

/-- One that does not fit is as large as the bound. -/
theorem overflowing_ofNat?_eq_error {bits n : Nat} {e : MathError} :
    MathError.overflowing (Word.ofNat? bits n) = .error e ↔ e = .overflow ∧ 1 <<< bits ≤ n := by
  rw [← Word.ofNat?_eq_none]
  cases Word.ofNat? bits n <;> simp [MathError.overflowing, eq_comm]

theorem overflowing_eq_error {α : Type} {x : Option α} {e : MathError}
    (h : MathError.overflowing x = .error e) : e = .overflow := by
  cases x with
  | some a => cases h
  | none =>
    cases h
    rfl

/-- Two steps of a computation come to a result if the first does and the second does from there. -/
theorem Except.bind_eq_ok {ε α β : Type} {x : Except ε α} {f : α → Except ε β} {b : β} :
    (x >>= f) = .ok b ↔ ∃ a, x = .ok a ∧ f a = .ok b := by
  cases x <;> simp [bind, Except.bind]

theorem Except.eq_ok_of_toOption {ε α : Type} {x : Except ε α} {a : α} (h : x.toOption = some a) :
    x = .ok a := by
  cases x with
  | ok b =>
    obtain rfl := Option.some.inj h
    rfl
  | error e => cases h

/-- **A computation is defined** if nothing is divided by zero in it and nothing falls below zero:
all that can keep it from a result is that a number does not fit. -/
def Defined {α : Type} (x : Except MathError α) : Prop := ∀ e, x = .error e → e = .overflow

/-- An error is at most an overflow if it is one, as `wrap` puts it, or not one of arithmetic. -/
@[simp]
def AtMostOverflow {ε : Type} (wrap : MathError → ε) (e : ε) : Prop :=
  ∀ m, e = wrap m → m = .overflow

/-- To give an error another name makes no difference to a result. -/
theorem Except.mapError_eq_ok {ε δ α : Type} {f : ε → δ} {x : Except ε α} {a : α} :
    x.mapError f = .ok a ↔ x = .ok a := by
  cases x <;> simp [Except.mapError]

theorem Except.mapError_eq_error {ε δ α : Type} {f : ε → δ} {x : Except ε α} {e : δ} :
    x.mapError f = .error e ↔ ∃ e', x = .error e' ∧ f e' = e := by
  cases x <;> simp [Except.mapError]

/-- Two steps are refused if the first is, or the second is from where the first came to. -/
theorem Except.bind_eq_error {ε α β : Type} {x : Except ε α} {f : α → Except ε β} {e : ε} :
    (x >>= f) = .error e ↔ x = .error e ∨ ∃ a, x = .ok a ∧ f a = .error e := by
  cases x <;> simp [bind, Except.bind]

namespace Defined

variable {α β : Type}

theorem ok (a : α) : Defined (.ok a : Except MathError α) := by
  rintro e ⟨⟩

theorem overflowing (x : Option α) : Defined (MathError.overflowing x) :=
  fun _ h => overflowing_eq_error h

/-- Two steps are defined if the first is, and the second from what the first comes to. -/
theorem bind {x : Except MathError α} {f : α → Except MathError β} (hx : Defined x)
    (hf : ∀ a, x = .ok a → Defined (f a)) : Defined (x >>= f) := by
  intro e h
  rcases Except.bind_eq_error.1 h with h | ⟨a, ha, h⟩
  · exact hx e h
  · exact hf a ha e h

theorem map {x : Except MathError α} (hx : Defined x) (f : α → β) : Defined (x.map f) := by
  intro e h
  cases x with
  | ok a => cases h
  | error e' =>
    obtain rfl := Except.error.inj h
    exact hx e' rfl

end Defined

namespace Amount

variable {a b c d : Amount} {e : MathError}

theorem toNat_pos_iff : 0 < d.toNat ↔ d ≠ 0 := by
  rw [Nat.pos_iff_ne_zero]
  exact not_congr ⟨fun h => Word.ext h, fun h => congrArg Word.toNat h⟩

theorem add_eq_ok : a.add b = .ok c ↔ c.toNat = a.toNat + b.toNat :=
  overflowing_ofNat?_eq_ok

theorem add_ne_error_of_lt (h : a.toNat + b.toNat < 1 <<< 128) : a.add b ≠ .error e := by
  have hok : a.add b = .ok ⟨_, h⟩ := add_eq_ok.2 rfl
  simp [hok]

theorem add_eq_error (h : a.add b = .error e) : e = .overflow := overflowing_eq_error h

theorem add_defined (a b : Amount) : Defined (a.add b) := .overflowing _

theorem sub_eq_ok : a.sub b = .ok c ↔ c.toNat + b.toNat = a.toNat := by
  unfold sub Word.sub?
  by_cases h : b ≤ a
  · have hle : b.toNat ≤ a.toNat := h
    simp only [h, if_true, Except.ok.injEq, Word.ext_iff]
    omega
  · have hlt : ¬b.toNat ≤ a.toNat := h
    simp only [h, if_false, reduceCtorEq, false_iff]
    omega

theorem sub_ne_error_of_le (h : b.toNat ≤ a.toNat) : a.sub b ≠ .error e := by
  have hok : a.sub b = .ok (a.truncatedSub b) := sub_eq_ok.2 (Nat.sub_add_cancel h)
  simp [hok]

/-- A difference is refused only where it would fall below zero. -/
theorem sub_eq_error (h : a.sub b = .error e) : e = .underflow ∧ a.toNat < b.toNat := by
  refine ⟨?_, Nat.lt_of_not_le fun hle => sub_ne_error_of_le hle h⟩
  unfold sub at h
  split at h
  · cases h
  · cases h
    rfl

theorem mulDivDown_eq_ok : mulDivDown a b d = .ok c ↔
    0 < d.toNat ∧ c.toNat = a.toNat * b.toNat / d.toNat := by
  by_cases hd : d = 0
  · simp [hd, mulDivDown]
  · rw [mulDivDown_eq a b hd, overflowing_ofNat?_eq_ok, toNat_pos_iff]
    exact (and_iff_right hd).symm

/-- One less than the divisor on top of the product makes the quotient the one that rounds up. -/
theorem mulDivUp_eq_ceilDiv (a b : Amount) (hd : d ≠ 0) : mulDivUp a b d =
    MathError.overflowing (Word.ofNat? 128 ((a.toNat * b.toNat) ⌈/⌉ d.toNat)) := by
  rw [mulDivUp_eq a b hd, Nat.ceilDiv_eq_add_pred_div, Nat.add_sub_assoc (toNat_pos_iff.2 hd)]

theorem mulDivUp_eq_ok : mulDivUp a b d = .ok c ↔
    0 < d.toNat ∧ c.toNat = (a.toNat * b.toNat) ⌈/⌉ d.toNat := by
  by_cases hd : d = 0
  · simp [hd, mulDivUp]
  · rw [mulDivUp_eq_ceilDiv a b hd, overflowing_ofNat?_eq_ok, toNat_pos_iff]
    exact (and_iff_right hd).symm

theorem mulDivDown_defined (a b : Amount) (hd : d ≠ 0) : Defined (mulDivDown a b d) := by
  rw [mulDivDown_eq a b hd]
  exact .overflowing _

theorem mulDivUp_defined (a b : Amount) (hd : d ≠ 0) : Defined (mulDivUp a b d) := by
  rw [mulDivUp_eq a b hd]
  exact .overflowing _

theorem preciseMul_defined (a b : Amount) : Defined (preciseMul a b) :=
  mulDivDown_defined a b (by decide)

theorem preciseMulUp_defined (a b : Amount) : Defined (preciseMulUp a b) :=
  mulDivUp_defined a b (by decide)

end Amount

/-! ## Shares and assets -/

namespace Share

variable {x A S c : Amount}

/-- What a pool counts as its assets and shares: both totals with the virtual amounts added. -/
theorem adjusted_eq_ok {f : Amount → Amount → Except MathError Amount} :
    (do let assets ← A.add virtualAssets
        let pool ← S.add virtualShares
        f assets pool) = .ok c ↔
      ∃ assets pool, assets.toNat = A.toNat + 1 ∧ pool.toNat = S.toNat + 1000000 ∧
        f assets pool = .ok c := by
  simp only [Except.bind_eq_ok, Amount.add_eq_ok]
  constructor
  · rintro ⟨assets, hassets, pool, hpool, h⟩
    exact ⟨assets, pool, hassets, hpool, h⟩
  · rintro ⟨assets, pool, hassets, hpool, h⟩
    exact ⟨assets, hassets, pool, hpool, h⟩

theorem toAssets_up_eq_ok (h : toAssets .up x A S = .ok c) :
    c.toNat = (x.toNat * (A.toNat + 1)) ⌈/⌉ (S.toNat + 1000000) := by
  obtain ⟨assets, pool, hassets, hpool, hc⟩ := adjusted_eq_ok.1 h
  rw [← hassets, ← hpool]
  exact (Amount.mulDivUp_eq_ok.1 hc).2

theorem toAssets_down_eq_ok (h : toAssets .down x A S = .ok c) :
    c.toNat = x.toNat * (A.toNat + 1) / (S.toNat + 1000000) := by
  obtain ⟨assets, pool, hassets, hpool, hc⟩ := adjusted_eq_ok.1 h
  rw [← hassets, ← hpool]
  exact (Amount.mulDivDown_eq_ok.1 hc).2

theorem ofAssets_up_eq_ok (h : ofAssets .up x A S = .ok c) :
    c.toNat = (x.toNat * (S.toNat + 1000000)) ⌈/⌉ (A.toNat + 1) := by
  obtain ⟨assets, pool, hassets, hpool, hc⟩ := adjusted_eq_ok.1 h
  rw [← hassets, ← hpool]
  exact (Amount.mulDivUp_eq_ok.1 hc).2

theorem ofAssets_down_eq_ok (h : ofAssets .down x A S = .ok c) :
    c.toNat = x.toNat * (S.toNat + 1000000) / (A.toNat + 1) := by
  obtain ⟨assets, pool, hassets, hpool, hc⟩ := adjusted_eq_ok.1 h
  rw [← hassets, ← hpool]
  exact (Amount.mulDivDown_eq_ok.1 hc).2

/-- A conversion never divides by zero, because the virtual amounts are not zero. -/
theorem adjusted_defined (A S : Amount) {f : Amount → Amount → Except MathError Amount}
    (hf : ∀ assets pool, assets ≠ 0 → pool ≠ 0 → Defined (f assets pool)) :
    Defined (do
      let assets ← A.add virtualAssets
      let pool ← S.add virtualShares
      f assets pool) := by
  refine .bind (Amount.add_defined _ _) fun assets hassets => ?_
  refine .bind (Amount.add_defined _ _) fun pool hpool => hf assets pool ?_ ?_
  · rw [← Amount.toNat_pos_iff, Amount.add_eq_ok.1 hassets]
    exact Nat.succ_pos _
  · rw [← Amount.toNat_pos_iff, Amount.add_eq_ok.1 hpool]
    exact Nat.lt_add_left _ (by decide)

theorem toAssets_defined (r : Rounding) (x A S : Amount) : Defined (toAssets r x A S) := by
  refine adjusted_defined A S fun assets pool _ hpool => ?_
  cases r with
  | down => exact Amount.mulDivDown_defined _ _ hpool
  | up => exact Amount.mulDivUp_defined _ _ hpool

theorem ofAssets_defined (r : Rounding) (x A S : Amount) : Defined (ofAssets r x A S) := by
  refine adjusted_defined A S fun assets pool hassets _ => ?_
  cases r with
  | down => exact Amount.mulDivDown_defined _ _ hassets
  | up => exact Amount.mulDivUp_defined _ _ hassets

end Share

/-! ## Rates -/

namespace BasisPoints

variable {r : BasisPoints} {amount part : Amount}

theorem apply_defined (r : BasisPoints) (amount : Amount) : Defined (r.apply amount) :=
  Amount.mulDivDown_defined _ _ (by decide)

/-- What a rate takes is so many parts in ten thousand, rounded down. -/
theorem apply_eq_ok (h : r.apply amount = .ok part) :
    part.toNat = amount.toNat * r.value.toNat / 10_000 := (Amount.mulDivDown_eq_ok.1 h).2

/-- A rate of at most the whole takes at most the whole. -/
theorem apply_le (hr : r.value ≤ whole.value) (h : r.apply amount = .ok part) :
    part.toNat ≤ amount.toNat := by
  rw [apply_eq_ok h]
  exact Nat.div_le_of_le_mul (Nat.mul_comm _ _ ▸ Nat.mul_le_mul_right _ hr)

end BasisPoints

/-! ## Units -/

namespace PositionUnit

variable {size holding debt supply : Amount} {u : PositionUnit}

/-- A unit that may not fit is one that fits, or an overflow. -/
theorem map_overflowing_eq_ok {v : Option (IntWord 128)} :
    (MathError.overflowing v).map PositionUnit.mk = .ok u ↔ v = some u.value := by
  cases v with
  | none => simp [MathError.overflowing, Except.map]
  | some w => simp [MathError.overflowing, Except.map, PositionUnit.ext_iff]

theorem positive_eq_ok : positive size = .ok u ↔ u.value.toInt = size.toNat :=
  map_overflowing_eq_ok.trans IntWord.ofInt?_eq_some

theorem negative_eq_ok (h : negative size = .ok u) : u.value.toInt = -size.toNat := by
  unfold negative at h
  split at h
  · obtain rfl := Except.ok.inj h
    rfl
  · cases h

/-- The size of a unit that is not below zero is its value. -/
theorem magnitude_toNat {unit : Nat} (h : u.value.toInt = unit) : u.magnitude.toNat = unit := by
  change u.value.toInt.natAbs = unit
  rw [h, Int.natAbs_natCast]

/-- The size of a unit that is not above zero is what it is below. -/
theorem magnitude_toNat_of_neg {unit : Nat} (h : u.value.toInt = -(unit : Int)) :
    u.magnitude.toNat = unit := by
  change u.value.toInt.natAbs = unit
  rw [h, Int.natAbs_neg, Int.natAbs_natCast]

/-- A notional is the size of the unit times the supply, rounded down. -/
theorem notionalSize_iff : u.notionalSize supply = .ok size ↔
    size.toNat = u.magnitude.toNat * supply.toNat / Amount.one.toNat := by
  rw [notionalSize, Amount.preciseMul, Amount.mulDivDown_eq_ok]
  exact and_iff_right (by decide)

/-- Where it has to cover a debt, it is rounded up. -/
theorem notionalSizeUp_iff : u.notionalSizeUp supply = .ok size ↔
    size.toNat = (u.magnitude.toNat * supply.toNat) ⌈/⌉ Amount.one.toNat := by
  rw [notionalSizeUp, Amount.preciseMulUp, Amount.mulDivUp_eq_ok]
  exact and_iff_right (by decide)

theorem notionalSize_eq_ok (h : u.notionalSize supply = .ok size) :
    size.toNat = u.magnitude.toNat * supply.toNat / Amount.one.toNat := notionalSize_iff.1 h

theorem notionalSizeUp_eq_ok (h : u.notionalSizeUp supply = .ok size) :
    size.toNat = (u.magnitude.toNat * supply.toNat) ⌈/⌉ Amount.one.toNat := notionalSizeUp_iff.1 h

/-- The unit of a holding is the holding over the supply, rounded down. -/
theorem ofHolding_eq_ok (h : ofHolding holding supply = .ok u) : 0 < supply.toNat ∧
    u.value.toInt = (holding.toNat * Amount.one.toNat / supply.toNat : Nat) := by
  obtain ⟨size, hsize, hu⟩ := Except.bind_eq_ok.1 h
  obtain ⟨hpos, hquot⟩ := Amount.mulDivDown_eq_ok.1 hsize
  rw [positive_eq_ok.1 hu, hquot]
  exact ⟨hpos, rfl⟩

/-- The unit of a debt is the debt over the supply, rounded away from zero. -/
theorem ofDebt_eq_ok (h : ofDebt debt supply = .ok u) : 0 < supply.toNat ∧
    u.value.toInt = -((debt.toNat * Amount.one.toNat) ⌈/⌉ supply.toNat : Nat) := by
  obtain ⟨size, hsize, hu⟩ := Except.bind_eq_ok.1 h
  obtain ⟨hpos, hquot⟩ := Amount.mulDivUp_eq_ok.1 hsize
  rw [negative_eq_ok hu, hquot]
  exact ⟨hpos, rfl⟩

theorem positive_defined (size : Amount) : Defined (positive size) :=
  (Defined.overflowing _).map _

theorem negative_defined (size : Amount) : Defined (negative size) := by
  unfold negative
  split
  · exact .ok _
  · rintro e ⟨⟩
    rfl

theorem notionalSize_defined (u : PositionUnit) (supply : Amount) :
    Defined (u.notionalSize supply) := Amount.preciseMul_defined _ _

theorem notionalSizeUp_defined (u : PositionUnit) (supply : Amount) :
    Defined (u.notionalSizeUp supply) := Amount.preciseMulUp_defined _ _

theorem ofHolding_defined (holding : Amount) (hsupply : supply ≠ 0) :
    Defined (ofHolding holding supply) :=
  .bind (Amount.mulDivDown_defined _ _ hsupply) fun size _ => positive_defined size

theorem ofDebt_defined (debt : Amount) (hsupply : supply ≠ 0) : Defined (ofDebt debt supply) :=
  .bind (Amount.mulDivUp_defined _ _ hsupply) fun size _ => negative_defined size

end PositionUnit

end LeveredBasket
