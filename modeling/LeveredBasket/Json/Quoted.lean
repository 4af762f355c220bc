/-
Quoted text: the inside of a JSON string.

`escape` writes text with as few escapes as the format allows: the quotation
mark, the backslash and the control characters, five of these by a letter and
the others by four hexadecimal digits. `unescape?` reads what any writer may
have written: every escape of the format, among them the two halves of a
surrogate pair for a character above U+FFFF. Half a pair on its own is well
written but stands for no text.

`split?` finds the closing mark. It checks that every escape is one of the
format's and that no control character stands bare, but not that the text
means anything, because a reader that skips a string does not ask for that.
-/
import LeveredBasket.Decimal

set_option autoImplicit false

namespace LeveredBasket.Json.Quoted

/-! ## Writing -/

/-- How one character is written. -/
def escapeChar (c : Char) : List Char :=
  if c = '"' then ['\\', '"']
  else if c = '\\' then ['\\', '\\']
  else if c = '\x08' then ['\\', 'b']
  else if c = '\x0c' then ['\\', 'f']
  else if c = '\n' then ['\\', 'n']
  else if c = '\r' then ['\\', 'r']
  else if c = '\t' then ['\\', 't']
  else if c.toNat < 0x20 then '\\' :: 'u' :: paddedDigits 16 4 c.toNat
  else [c]

/-- The text as it is written between quotation marks. -/
def escape (text : List Char) : List Char := text.flatMap escapeChar

/-! ## Reading -/

/-- The value of a hexadecimal digit of either case. -/
def hexValue? (c : Char) : Option Nat :=
  if '0' ≤ c ∧ c ≤ '9' then some (c.toNat - '0'.toNat)
  else if 'a' ≤ c ∧ c ≤ 'f' then some (c.toNat - 'a'.toNat + 10)
  else if 'A' ≤ c ∧ c ≤ 'F' then some (c.toNat - 'A'.toNat + 10)
  else none

/-- The number of four hexadecimal digits. -/
def hexNumber? (a b c d : Char) : Option Nat := do
  pure ((((← hexValue? a) * 16 + (← hexValue? b)) * 16 + (← hexValue? c)) * 16 + (← hexValue? d))

/-- What an escape of a single letter stands for. -/
def letterEscape? (c : Char) : Option Char :=
  if c = '"' ∨ c = '\\' ∨ c = '/' then some c
  else if c = 'b' then some '\x08'
  else if c = 'f' then some '\x0c'
  else if c = 'n' then some '\n'
  else if c = 'r' then some '\r'
  else if c = 't' then some '\t'
  else none

/-- A piece of quoted text: a character, or half of a surrogate pair. -/
inductive Piece where
  | char (c : Char)
  | half (unit : Nat)

/-- The piece that a number written in an escape stands for. -/
def Piece.ofNumber (n : Nat) : Piece :=
  if 0xd800 ≤ n ∧ n ≤ 0xdfff then .half n else .char (Char.ofNat n)

/-- The pieces of quoted text. -/
def pieces? : List Char → Option (List Piece)
  | '\\' :: 'u' :: a :: b :: c :: d :: rest => do
    pure (Piece.ofNumber (← hexNumber? a b c d) :: (← pieces? rest))
  | '\\' :: c :: rest => do pure (.char (← letterEscape? c) :: (← pieces? rest))
  | '\\' :: [] => none
  | c :: rest => do pure (.char c :: (← pieces? rest))
  | [] => some []

/-- The text that pieces make up, if every half has its other half behind it. -/
def join? : List Piece → Option (List Char)
  | .half hi :: .half lo :: rest =>
    -- the high half comes first, with ten binary digits in each
    if hi < 0xdc00 ∧ 0xdc00 ≤ lo then
      (join? rest).map (Char.ofNat (0x10000 + (hi - 0xd800) * 0x400 + (lo - 0xdc00)) :: ·)
    else none
  | .half _ :: _ => none
  | .char c :: rest => (join? rest).map (c :: ·)
  | [] => some []

/-- The text that was written, if it means any. -/
def unescape? (written : List Char) : Option (List Char) := pieces? written >>= join?

/-- What is written up to the closing quotation mark, and what follows it. -/
def split? : List Char → Option (List Char × List Char)
  | '"' :: rest => some ([], rest)
  | '\\' :: 'u' :: a :: b :: c :: d :: rest => do
    let _ ← hexNumber? a b c d
    let (written, rest) ← split? rest
    pure ('\\' :: 'u' :: a :: b :: c :: d :: written, rest)
  | '\\' :: c :: rest => do
    -- checked here already, though what it stands for is worked out only where it is asked for
    let _ ← letterEscape? c
    let (written, rest) ← split? rest
    pure ('\\' :: c :: written, rest)
  | c :: rest =>
    if c.toNat < 0x20 then none
    else do
      let (written, rest) ← split? rest
      pure (c :: written, rest)
  | [] => none

end LeveredBasket.Json.Quoted
