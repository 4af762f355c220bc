/-
Numbers of a fixed width.

Amounts, addresses, clocks and counters all live in a fixed number of binary
digits, and no operation of this library ever wraps around: a result that does
not fit is reported to the caller, who decides whether that is an error or the
end of the run. So a word carries the proof that it fits, arithmetic is done on
the natural number inside it, and `Word.ofNat?` is the only way back. The bound
is a one shifted by the width, which is a power of two (`Nat.one_shiftLeft`).

`IntWord` is the same for signed numbers, with the asymmetric range of two's
complement: one more value below zero than above.
-/

set_option autoImplicit false

namespace LeveredBasket

/-! ## Unsigned words -/

/-- There is a number below `1 <<< bits`. -/
theorem one_shiftLeft_pos (bits : Nat) : 0 < 1 <<< bits := by
  rw [Nat.one_shiftLeft]
  exact Nat.two_pow_pos bits

/-- One is a number below it, unless there are no digits at all. -/
theorem one_lt_one_shiftLeft (bits : Nat) : 1 < 1 <<< (bits + 1) := by
  rw [Nat.one_shiftLeft]
  exact Nat.one_lt_two_pow (Nat.succ_ne_zero bits)

/-- The bound of a wider word is no smaller. -/
theorem one_shiftLeft_mono {bits wide : Nat} (h : bits ≤ wide) : 1 <<< bits ≤ 1 <<< wide := by
  rw [Nat.one_shiftLeft, Nat.one_shiftLeft]
  exact Nat.pow_le_pow_right Nat.two_pos h

/-- **A word**: a natural number that fits in `bits` binary digits. -/
@[ext]
structure Word (bits : Nat) where
  /-- The number itself. -/
  toNat : Nat
  /-- It fits. -/
  isLt : toNat < 1 <<< bits
deriving DecidableEq

namespace Word

variable {bits : Nat}

instance : OfNat (Word bits) 0 := ⟨⟨0, one_shiftLeft_pos bits⟩⟩

instance : OfNat (Word (bits + 1)) 1 := ⟨⟨1, one_lt_one_shiftLeft bits⟩⟩

instance : Inhabited (Word bits) := ⟨0⟩

instance : LT (Word bits) := ⟨fun a b => a.toNat < b.toNat⟩

instance : LE (Word bits) := ⟨fun a b => a.toNat ≤ b.toNat⟩

instance (a b : Word bits) : Decidable (a < b) := inferInstanceAs (Decidable (a.toNat < b.toNat))

instance (a b : Word bits) : Decidable (a ≤ b) := inferInstanceAs (Decidable (a.toNat ≤ b.toNat))

instance : ToString (Word bits) := ⟨fun a => toString a.toNat⟩

/-- The word that holds `n`, if `n` fits. -/
def ofNat? (bits n : Nat) : Option (Word bits) :=
  if h : n < 1 <<< bits then some ⟨n, h⟩ else none

/-- The largest word. -/
def largest (bits : Nat) : Word bits :=
  ⟨(1 <<< bits) - 1, Nat.sub_lt (one_shiftLeft_pos bits) Nat.one_pos⟩

/-- The sum, if it fits. -/
def add? (a b : Word bits) : Option (Word bits) := ofNat? bits (a.toNat + b.toNat)

/-- The difference, if it is not negative. -/
def sub? (a b : Word bits) : Option (Word bits) :=
  if b ≤ a then some ⟨a.toNat - b.toNat, Nat.lt_of_le_of_lt (Nat.sub_le ..) a.isLt⟩ else none

/-- The product, if it fits. -/
def mul? (a b : Word bits) : Option (Word bits) := ofNat? bits (a.toNat * b.toNat)

/-- The difference, or zero where it would be negative. -/
def truncatedSub (a b : Word bits) : Word bits :=
  ⟨a.toNat - b.toNat, Nat.lt_of_le_of_lt (Nat.sub_le ..) a.isLt⟩

/-- The next word, if there is one. -/
def succ? (a : Word bits) : Option (Word bits) := ofNat? bits (a.toNat + 1)

/-- The same number in a word at least as wide. -/
def widen {wide : Nat} (a : Word bits) (h : bits ≤ wide) : Word wide :=
  ⟨a.toNat, Nat.lt_of_lt_of_le a.isLt (one_shiftLeft_mono h)⟩

theorem lt_iff {a b : Word bits} : a < b ↔ a.toNat < b.toNat := Iff.rfl

theorem le_iff {a b : Word bits} : a ≤ b ↔ a.toNat ≤ b.toNat := Iff.rfl

@[simp]
theorem toNat_zero : (0 : Word bits).toNat = 0 := rfl

/-- A number has a word exactly when it fits, and then the word holds it. -/
theorem ofNat?_eq_some {n : Nat} {a : Word bits} : ofNat? bits n = some a ↔ a.toNat = n := by
  unfold ofNat?
  constructor
  · intro h
    split at h
    · cases h; rfl
    · cases h
  · rintro rfl
    simp [a.isLt]

theorem ofNat?_eq_none {n : Nat} : ofNat? bits n = none ↔ 1 <<< bits ≤ n := by
  unfold ofNat?
  split <;> simp <;> omega

theorem ofNat?_toNat (a : Word bits) : ofNat? bits a.toNat = some a := ofNat?_eq_some.2 rfl

end Word

/-! ## Signed words -/

/-- **A signed word**: an integer that fits in `bits` binary digits of two's complement. -/
@[ext]
structure IntWord (bits : Nat) where
  /-- The number itself. -/
  toInt : Int
  /-- It is not too far below zero. -/
  isGe : -((1 <<< (bits - 1) : Nat) : Int) ≤ toInt
  /-- It is not too far above. -/
  isLt : toInt < (1 <<< (bits - 1) : Nat)
deriving DecidableEq

namespace IntWord

variable {bits : Nat}

/-- The signed word that holds `i`, if `i` fits. -/
def ofInt? (bits : Nat) (i : Int) : Option (IntWord bits) :=
  if h : -((1 <<< (bits - 1) : Nat) : Int) ≤ i ∧ i < (1 <<< (bits - 1) : Nat) then
    some ⟨i, h.1, h.2⟩
  else none

instance : OfNat (IntWord bits) 0 :=
  ⟨⟨0, Int.neg_nonpos_of_nonneg (Int.natCast_nonneg _),
    Int.natCast_pos.2 (one_shiftLeft_pos (bits - 1))⟩⟩

instance : Inhabited (IntWord bits) := ⟨0⟩

instance : ToString (IntWord bits) := ⟨fun a => toString a.toInt⟩

/-- The sum, if it fits. -/
def add? (a b : IntWord bits) : Option (IntWord bits) := ofInt? bits (a.toInt + b.toInt)

@[simp]
theorem toInt_zero : (0 : IntWord bits).toInt = 0 := rfl

/-- A number has a signed word exactly when it fits, and then the word holds it. -/
theorem ofInt?_eq_some {i : Int} {a : IntWord bits} : ofInt? bits i = some a ↔ a.toInt = i := by
  unfold ofInt?
  constructor
  · intro h
    split at h
    · cases h; rfl
    · cases h
  · rintro rfl
    exact dif_pos ⟨a.isGe, a.isLt⟩

theorem ofInt?_toInt (a : IntWord bits) : ofInt? bits a.toInt = some a := ofInt?_eq_some.2 rfl

end IntWord

end LeveredBasket
