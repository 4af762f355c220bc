/-
Quoted text of a TOML file.

Text between double quotation marks may have escapes, text between single ones
has none. Either may stand between three marks on each side: then it may run
over several lines, a line end right after the opening marks does not count,
and up to two marks may stand right before the closing ones. Between double
marks a backslash at the end of a line takes away all blanks and line ends up
to the next character.
-/
import LeveredBasket.Json.Quoted

set_option autoImplicit false

namespace LeveredBasket.Toml

/-- Control characters may not stand in a file, but for the tabulator. -/
def isPlain (c : Char) : Bool := c = '\t' || (0x20 ≤ c.toNat && c.toNat ≠ 0x7f)

def isBlank (c : Char) : Bool := c = ' ' || c = '\t'

def skipBlanks (text : List Char) : List Char := text.dropWhile isBlank

/-- Without the line end in front, if there is one. A carriage return before the end of a line
belongs to the end. -/
def skipLineEnd : List Char → List Char
  | '\n' :: rest => rest
  | '\r' :: '\n' :: rest => rest
  | text => text

/-! ## Escapes -/

/-- The character of a code point written in hexadecimal digits. -/
def codePoint? (digits : List Char) : Option Char := do
  let n ← digits.foldlM (fun n c => (Json.Quoted.hexValue? c).map (n * 16 + ·)) 0
  if h : n.isValidChar then some (Char.ofNatAux n h) else none

/-- What an escape of a single letter stands for. -/
def letterEscape? (c : Char) : Option Char :=
  if c = '/' then none else Json.Quoted.letterEscape? c

/-! ## One line -/

/-- Text up to the closing double mark, and the rest. -/
def basic? : List Char → Option (List Char × List Char)
  | '"' :: rest => some ([], rest)
  | '\\' :: 'u' :: a :: b :: c :: d :: rest => do
    let first ← codePoint? [a, b, c, d]
    let (text, rest) ← basic? rest
    pure (first :: text, rest)
  | '\\' :: 'U' :: a :: b :: c :: d :: e :: f :: g :: h :: rest => do
    let first ← codePoint? [a, b, c, d, e, f, g, h]
    let (text, rest) ← basic? rest
    pure (first :: text, rest)
  | '\\' :: c :: rest => do
    let first ← letterEscape? c
    let (text, rest) ← basic? rest
    pure (first :: text, rest)
  | c :: rest =>
    if c ≠ '\\' ∧ isPlain c then do
      let (text, rest) ← basic? rest
      pure (c :: text, rest)
    else none
  | [] => none

/-- Text up to the closing single mark, and the rest. -/
def literal? : List Char → Option (List Char × List Char)
  | '\'' :: rest => some ([], rest)
  | c :: rest => if isPlain c then (literal? rest).map fun r => (c :: r.1, r.2) else none
  | [] => none

/-! ## Several lines -/

/-- Whether nothing but blanks stands before the end of the line. -/
def endsLine (text : List Char) : Bool :=
  match skipBlanks text with
  | '\n' :: _ => true
  | '\r' :: '\n' :: _ => true
  | _ => false

/-- Text up to the three closing double marks, and the rest. With `folding`, the blanks and line
ends in front do not count. -/
def basicLines? (folding : Bool) : List Char → Option (List Char × List Char)
  | '"' :: '"' :: '"' :: '"' :: '"' :: rest => some (['"', '"'], rest)
  | '"' :: '"' :: '"' :: '"' :: rest => some (['"'], rest)
  | '"' :: '"' :: '"' :: rest => some ([], rest)
  | '\r' :: '\n' :: rest => do
    let (text, rest) ← basicLines? folding rest
    pure (if folding then text else '\n' :: text, rest)
  | '\\' :: 'u' :: a :: b :: c :: d :: rest => do
    let first ← codePoint? [a, b, c, d]
    let (text, rest) ← basicLines? false rest
    pure (first :: text, rest)
  | '\\' :: 'U' :: a :: b :: c :: d :: e :: f :: g :: h :: rest => do
    let first ← codePoint? [a, b, c, d, e, f, g, h]
    let (text, rest) ← basicLines? false rest
    pure (first :: text, rest)
  | '\\' :: c :: rest =>
    -- a blank is no escape, so only the end of the line can make sense of one here
    if endsLine (c :: rest) then basicLines? true (c :: rest)
    else do
      let first ← letterEscape? c
      let (text, rest) ← basicLines? false rest
      pure (first :: text, rest)
  | c :: rest =>
    if folding ∧ (isBlank c ∨ c = '\n') then basicLines? true rest
    else if c = '\n' ∨ (c ≠ '\\' ∧ isPlain c) then do
      let (text, rest) ← basicLines? false rest
      pure (c :: text, rest)
    else none
  | [] => none

/-- Text up to the three closing single marks, and the rest. -/
def literalLines? : List Char → Option (List Char × List Char)
  | '\'' :: '\'' :: '\'' :: '\'' :: '\'' :: rest => some (['\'', '\''], rest)
  | '\'' :: '\'' :: '\'' :: '\'' :: rest => some (['\''], rest)
  | '\'' :: '\'' :: '\'' :: rest => some ([], rest)
  | '\r' :: '\n' :: rest => (literalLines? rest).map fun r => ('\n' :: r.1, r.2)
  | '\n' :: rest => (literalLines? rest).map fun r => ('\n' :: r.1, r.2)
  | c :: rest => if isPlain c then (literalLines? rest).map fun r => (c :: r.1, r.2) else none
  | [] => none

/-- The quoted text in front, and the rest. -/
def quoted? : List Char → Option (List Char × List Char)
  | '"' :: '"' :: '"' :: rest => basicLines? false (skipLineEnd rest)
  | '"' :: rest => basic? rest
  | '\'' :: '\'' :: '\'' :: rest => literalLines? (skipLineEnd rest)
  | '\'' :: rest => literal? rest
  | _ => none

end LeveredBasket.Toml
