/-
Settings as they are found, before it is known what they are to be.

A file or a variable may say a number where a truth value is wanted, or text
where a number is. Whatever has a sensible meaning is taken: a truth value as
one or zero, a fraction as the nearest whole number, a word for yes or no as a
truth value, a row of digits as a number. A table is no value of any setting.
-/
import LeveredBasket.Binary64
import LeveredBasket.Word

set_option autoImplicit false

namespace LeveredBasket.Settings

/-- **A value that was found.** -/
inductive Raw where
  | truth (value : Bool)
  | whole (value : Int)
  | real (value : Binary64)
  | text (value : String)
  /-- Something with values of its own in it. -/
  | compound
  /-- A table with nothing in it. -/
  | nothing
deriving DecidableEq

/-- The lower case of a letter of the alphabet; the sign for kelvin is a letter K. -/
def lowerChar (c : Char) : Char := if c = '\u212a' then 'k' else c.toLower

def lower (text : String) : String := String.ofList (text.toList.map lowerChar)

/-- The number of a row of digits. -/
def digits? (text : List Char) : Option Nat :=
  if text ≠ [] ∧ text.all Char.isDigit then some (Nat.ofDigitChars 10 text 0) else none

/-- The number of a row of digits with or without a plus sign. -/
def unsigned? : List Char → Option Nat
  | '+' :: rest => digits? rest
  | text => digits? text

/-- The number of a row of digits with or without a sign. -/
def signed? : List Char → Option Int
  | '-' :: rest => (digits? rest).map fun n => -(n : Int)
  | text => (unsigned? text).map Int.ofNat

/-- Words for a truth value. -/
def truthWord? (text : String) : Option Bool :=
  let word := lower text
  if word = "true" ∨ word = "on" ∨ word = "yes" then some true
  else if word = "false" ∨ word = "off" ∨ word = "no" then some false
  else none

namespace Raw

/-- The value as a natural number of 64 binary digits. -/
def toNat? : Raw → Option Nat
  | truth b => some b.toNat
  | whole i => if 0 ≤ i then some i.toNat else none
  | real r => some (r.toNatUpTo ((1 <<< 64) - 1))
  | text t => (truthWord? t).map Bool.toNat <|> unsigned? t.toList
  | compound | nothing => none

/-- The value as a word. -/
def toWord? (bits : Nat) (v : Raw) : Option (Word bits) := v.toNat? >>= Word.ofNat? bits

/-- The value as a truth value. -/
def toBool? : Raw → Option Bool
  | truth b => some b
  | whole i => some (i ≠ 0)
  | real r => some !r.isZero
  | text t => if t = "1" then some true else if t = "0" then some false else truthWord? t
  | compound | nothing => none

/-- The value as text. -/
def toText? : Raw → Option String
  | truth b => some (if b then "true" else "false")
  | whole i => some (toString i)
  | real r => some r.text
  | text t => some t
  | compound | nothing => none

end Raw

end LeveredBasket.Settings
