/-
Numbers of a TOML file.

Underscores may stand between digits. An integer may be in base two, eight or
sixteen and has to fit in 64 binary digits. Any other number has a point, an
exponent or both, or is one of the words for what is not finite. What is too
large for the precision is refused; what is too far below zero is not.
-/
import LeveredBasket.Binary64
import LeveredBasket.Json.Quoted

set_option autoImplicit false

namespace LeveredBasket.Toml

/-- A sign in front, if there is one: whether it is a minus sign, and the rest. -/
def sign : List Char → Bool × List Char
  | '-' :: rest => (true, rest)
  | '+' :: rest => (false, rest)
  | text => (false, text)

/-- Digits without the underscores between them; there has to be a digit on either side of one. -/
def ungroup? (isDigit : Char → Bool) : List Char → Option (List Char)
  | [] => none
  | [c] => if isDigit c then some [c] else none
  | c :: '_' :: rest => if isDigit c then (ungroup? isDigit rest).map (c :: ·) else none
  | c :: rest => if isDigit c then (ungroup? isDigit rest).map (c :: ·) else none

/-- Decimal digits with no zero in front of others. -/
def wholeDigits? (text : List Char) : Option (List Char) :=
  match ungroup? Char.isDigit text with
  | some ('0' :: _ :: _) => none
  | digits => digits

/-- An integer from its sign and its decimal digits. -/
def signedValue (negative : Bool) (digits : List Char) : Int :=
  let n : Int := Nat.ofDigitChars 10 digits 0
  if negative then -n else n

/-! ## Integers -/

/-- The number of digits in a base. -/
def inBase? (base : Nat) (text : List Char) : Option Nat := do
  let isDigit (c : Char) : Bool := (Json.Quoted.hexValue? c).any (· < base)
  let digits ← ungroup? isDigit text
  digits.foldlM (fun n c => (Json.Quoted.hexValue? c).map (n * base + ·)) 0

/-- The integer that a whole text is. -/
def integer? (text : List Char) : Option Int := do
  let n ← match text with
    | '0' :: 'x' :: rest => (inBase? 16 rest).map Int.ofNat
    | '0' :: 'o' :: rest => (inBase? 8 rest).map Int.ofNat
    | '0' :: 'b' :: rest => (inBase? 2 rest).map Int.ofNat
    | _ =>
      let (negative, rest) := sign text
      (wholeDigits? rest).map (signedValue negative)
  if -((1 <<< 63 : Nat) : Int) ≤ n ∧ n < (1 <<< 63 : Nat) then some n else none

/-! ## Other numbers -/

/-- What an exponent starts with. -/
def isExponentMark (c : Char) : Bool := c = 'e' || c = 'E'

/-- The digits after the point, if there is one. -/
def fraction? : List Char → Option (List Char)
  | [] => some []
  | _ :: digits => ungroup? Char.isDigit digits

/-- The exponent after its mark, if there is one. -/
def exponent? : List Char → Option Int
  | [] => some 0
  | _ :: rest =>
    let (negative, digits) := sign rest
    (ungroup? Char.isDigit digits).map (signedValue negative)

/-- The finite number that a text without a sign is, with its sign. -/
def finite? (negative : Bool) (text : List Char) : Option Binary64 := do
  guard (text.any fun c => isExponentMark c || c = '.')
  let mantissa := text.takeWhile (!isExponentMark ·)
  let whole ← wholeDigits? (mantissa.takeWhile (· ≠ '.'))
  let fraction ← fraction? (mantissa.dropWhile (· ≠ '.'))
  let exponent ← exponent? (text.dropWhile (!isExponentMark ·))
  let units := Nat.ofDigitChars 10 (whole ++ fraction) 0
  -- the digits of the fraction are read as whole ones, that many places further down
  match Binary64.ofDecimal negative units (exponent - fraction.length) with
  | .infinite false => none
  | r => some r

/-- The number that a whole text is, if it is no integer. -/
def real? (text : List Char) : Option Binary64 :=
  let (negative, text) := sign text
  if text = ['i', 'n', 'f'] then some (.infinite negative)
  else if text = ['n', 'a', 'n'] then some .nan
  else finite? negative text

end LeveredBasket.Toml
