/-
Reading JSON text.

The reader accepts the grammar of the format and nothing else: blanks between
tokens, no comma before a closing bracket, no zero in front of other digits.
Each function takes the text from where it stands and gives back what it read
and the rest. A value costs at least one character, so the length of the text
bounds the depth of the reading (`fuel`).
-/
import LeveredBasket.Json.Quoted
import LeveredBasket.Json.Value

set_option autoImplicit false

namespace LeveredBasket.Json

/-- The four blanks of the format. -/
def isBlank (c : Char) : Bool := c = ' ' || c = '\n' || c = '\t' || c = '\r'

def skipBlanks (text : List Char) : List Char := text.dropWhile isBlank

/-! ## Numbers -/

/-- A sign, if `signs` has it, and the rest. -/
def takeSign (signs text : List Char) : List Char × List Char :=
  match text with
  | c :: rest => if signs.contains c then ([c], rest) else ([], text)
  | [] => ([], [])

/-- At least one digit, and the rest. -/
def takeDigits? (text : List Char) : Option (List Char × List Char) :=
  match text.takeWhile Char.isDigit with
  | [] => none
  | digits => some (digits, text.dropWhile Char.isDigit)

/-- Digits with no zero in front of others, and the rest. -/
def takeWhole? (text : List Char) : Option (List Char × List Char) :=
  match takeDigits? text with
  | some ('0' :: _ :: _, _) => none
  | result => result

/-- The point and the digits after it, if there is a point, and the rest. -/
def takeFraction? : List Char → Option (List Char × List Char)
  | '.' :: rest => do
    let (digits, rest) ← takeDigits? rest
    pure ('.' :: digits, rest)
  | text => some ([], text)

/-- The exponent, if there is one, and the rest. -/
def takeExponent? : List Char → Option (List Char × List Char)
  | [] => some ([], [])
  | c :: rest =>
    if c = 'e' ∨ c = 'E' then do
      let (sign, rest) := takeSign ['+', '-'] rest
      let (digits, rest) ← takeDigits? rest
      pure (c :: sign ++ digits, rest)
    else some ([], c :: rest)

/-- A number as written, and the rest. -/
def takeNumber? (text : List Char) : Option (List Char × List Char) := do
  let (sign, rest) := takeSign ['-'] text
  let (whole, rest) ← takeWhole? rest
  let (fraction, rest) ← takeFraction? rest
  let (exponent, rest) ← takeExponent? rest
  pure (sign ++ whole ++ fraction ++ exponent, rest)

/-! ## Values -/

mutual

/-- A value, and the rest. -/
def parseValue (fuel : Nat) (text : List Char) : Option (Json × List Char) :=
  match fuel with
  | 0 => none
  | fuel + 1 =>
    match skipBlanks text with
    | '"' :: rest => do
      let (written, rest) ← Quoted.split? rest
      pure (.string written, rest)
    | '[' :: rest =>
      -- only an empty array may close right away: no comma may stand before the bracket
      match skipBlanks rest with
      | ']' :: rest => some (.array [], rest)
      | rest => do
        let (items, rest) ← parseItems fuel rest
        pure (.array items, rest)
    | '\x7b' :: rest =>
      match skipBlanks rest with
      | '\x7d' :: rest => some (.object [], rest)
      | rest => do
        let (members, rest) ← parseMembers fuel rest
        pure (.object members, rest)
    | 'n' :: 'u' :: 'l' :: 'l' :: rest => some (.null, rest)
    | 't' :: 'r' :: 'u' :: 'e' :: rest => some (.bool true, rest)
    | 'f' :: 'a' :: 'l' :: 's' :: 'e' :: rest => some (.bool false, rest)
    | text => do
      let (written, rest) ← takeNumber? text
      pure (.number written, rest)

/-- Values up to the closing bracket of their array, and the rest. -/
def parseItems (fuel : Nat) (text : List Char) : Option (List Json × List Char) :=
  match fuel with
  | 0 => none
  | fuel + 1 => do
    let (v, rest) ← parseValue fuel text
    match skipBlanks rest with
    | ']' :: rest => pure ([v], rest)
    | ',' :: rest => do
      let (items, rest) ← parseItems fuel rest
      pure (v :: items, rest)
    | _ => none

/-- Members up to the closing brace of their object, and the rest. -/
def parseMembers (fuel : Nat) (text : List Char) :
    Option (List (List Char × Json) × List Char) :=
  match fuel with
  | 0 => none
  | fuel + 1 =>
    match skipBlanks text with
    | '"' :: rest => do
      let (name, rest) ← Quoted.split? rest
      match skipBlanks rest with
      | ':' :: rest => do
        let (v, rest) ← parseValue fuel rest
        match skipBlanks rest with
        | '\x7d' :: rest => pure ([(name, v)], rest)
        | ',' :: rest => do
          let (members, rest) ← parseMembers fuel rest
          pure ((name, v) :: members, rest)
        | _ => none
      | _ => none
    | _ => none

end

/-- The value that the whole text is, with nothing but blanks around it. -/
def parse? (text : List Char) : Option Json := do
  let (v, rest) ← parseValue text.length text
  if skipBlanks rest = [] then some v else none

end LeveredBasket.Json
