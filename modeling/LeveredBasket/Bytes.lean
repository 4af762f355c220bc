/-
Byte strings.

Numbers become bytes with the most significant byte first, in a fixed count of
bytes, and text becomes bytes in UTF-8. The bytes of a number are read as that
number where it fits in them (`toNumber_bigEndian`), so that they tell it
(`bigEndian_inj`), and bytes of a text are read as that text (`text?_ofText`).
-/
set_option autoImplicit false

namespace LeveredBasket

/-- **A byte string.** -/
abbrev Bytes := List UInt8

namespace Bytes

/-! ## Numbers -/

/-- The lowest `count` bytes of a number, the most significant first. -/
def bigEndian : (count : Nat) → Nat → Bytes
  | 0, _ => []
  | count + 1, n => UInt8.ofNat (n >>> (8 * count)) :: bigEndian count n

/-- The number that bytes stand for, the most significant first. -/
def toNumber : Bytes → Nat
  | [] => 0
  | b :: rest => (b.toNat <<< (8 * rest.length)) + toNumber rest

@[simp]
theorem length_bigEndian (count n : Nat) : (bigEndian count n).length = count := by
  induction count with
  | zero => rfl
  | succ count ih => simp [bigEndian, ih]

/-- Reading back: the number, as far as the bytes go. -/
theorem toNumber_bigEndian (count n : Nat) :
    toNumber (bigEndian count n) = n % 1 <<< (8 * count) := by
  induction count with
  | zero => exact (Nat.mod_one n).symm
  | succ count ih =>
    have hbyte : (UInt8.ofNat (n >>> (8 * count))).toNat = n >>> (8 * count) % 256 :=
      UInt8.toNat_ofNat'
    have hsplit := Nat.mod_mul (x := n) (a := 2 ^ (8 * count)) (b := 256)
    rw [bigEndian, toNumber, length_bigEndian, hbyte, ih, Nat.shiftLeft_eq, Nat.one_shiftLeft,
      Nat.one_shiftLeft, Nat.shiftRight_eq_div_pow, Nat.mul_succ, Nat.pow_add, hsplit,
      Nat.add_comm, Nat.mul_comm (n / _ % 256)]

/-- A number that fits in so many bytes is told by them. -/
theorem bigEndian_inj {count m n : Nat} (hm : m < 1 <<< (8 * count))
    (hn : n < 1 <<< (8 * count)) (h : bigEndian count m = bigEndian count n) : m = n := by
  have hnumber := congrArg toNumber h
  rw [toNumber_bigEndian, toNumber_bigEndian, Nat.mod_eq_of_lt hm, Nat.mod_eq_of_lt hn] at hnumber
  exact hnumber

/-! ## Text -/

/-- The UTF-8 bytes of a text. -/
def ofText (text : String) : Bytes := text.toUTF8.data.toList

/-- The text of which these are the UTF-8 bytes. -/
def text? (bytes : Bytes) : Option String := String.fromUTF8? ⟨bytes.toArray⟩

/-- The bytes of a text are read as that text. -/
theorem text?_ofText (text : String) : (ofText text).text? = some text := by
  have hbytes : (⟨(ofText text).toArray⟩ : ByteArray) = text.toByteArray := by
    rw [ofText, Array.toArray_toList]
    rfl
  rw [text?, hbytes, String.fromUTF8?, dif_pos text.isValidUTF8]
  rfl

end Bytes

end LeveredBasket
