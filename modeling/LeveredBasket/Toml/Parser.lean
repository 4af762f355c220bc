/-
Reading TOML text.

Each function takes the text from where it stands and gives back what it read
and the rest. Every value and every statement costs at least one character, so
the length of the text bounds the reading (`fuel`). Apart from that there is a
bound on how deep values may lie in each other, and on how many names a key may
have (`room`): less than eighty.
-/
import LeveredBasket.Toml.Item
import LeveredBasket.Toml.Number
import LeveredBasket.Toml.Quoted

set_option autoImplicit false

namespace LeveredBasket.Toml

/-- The most names in a key, and the most arrays and tables written out in each other. -/
def room : Nat := 79

/-! ## Blanks and comments -/

/-- Without the blanks, line ends and comments in front. A comment goes on to the end of its
line. -/
def skipFiller? (inComment : Bool) : List Char → Option (List Char)
  | [] => some []
  | '\n' :: rest => skipFiller? false rest
  | '\r' :: '\n' :: rest => skipFiller? false rest
  | c :: rest =>
    if inComment then
      if isPlain c then skipFiller? true rest else none
    else if isBlank c then skipFiller? false rest
    else if c = '#' then skipFiller? true rest
    else some (c :: rest)

/-- What is left after a statement: nothing, or a line end, or a comment. -/
def statementEnd? (text : List Char) : Option (List Char) :=
  match skipBlanks text with
  | [] => some []
  | '\n' :: rest => some ('\n' :: rest)
  | '\r' :: '\n' :: rest => some ('\n' :: rest)
  | '#' :: rest => some ('#' :: rest)
  | _ => none

/-! ## Keys -/

/-- The characters of a name without quotation marks. -/
def isBare (c : Char) : Bool := c.isAlphanum || c = '_' || c = '-'

/-- One name of a key, and the rest. -/
def name? : List Char → Option (String × List Char)
  | '"' :: rest => (basic? rest).map fun r => (String.ofList r.1, r.2)
  | '\'' :: rest => (literal? rest).map fun r => (String.ofList r.1, r.2)
  | text =>
    match text.takeWhile isBare with
    | [] => none
    | bare => some (String.ofList bare, text.dropWhile isBare)

/-- A key of at most `room` names with points between them, and the rest. -/
def key? (room : Nat) (text : List Char) : Option (Key × List Char) :=
  match room with
  | 0 => none
  | room + 1 => do
    let (name, rest) ← name? (skipBlanks text)
    match skipBlanks rest with
    | '.' :: rest => do
      let (key, rest) ← key? room rest
      pure (⟨name :: key.path, key.name⟩, rest)
    | rest => pure (⟨[], name⟩, rest)

/-! ## Values -/

/-- The characters of values that are not quoted and have no parts. -/
def isWordChar (c : Char) : Bool :=
  c.isAlphanum || c = '+' || c = '-' || c = '.' || c = '_' || c = ':'

/-- The value that a whole word is. -/
def word? (word : List Char) : Option Item :=
  if word = "true".toList then some (.truth true)
  else if word = "false".toList then some (.truth false)
  else
    (moment? word).map Item.moment <|> (integer? word).map Item.whole <|>
      (real? word).map Item.real

/-- The longest word in front, and the rest. A date may have a blank between it and a time. -/
def takeWord (text : List Char) : List Char × List Char :=
  let word := text.takeWhile isWordChar
  match text.dropWhile isWordChar with
  | ' ' :: a :: b :: ':' :: rest =>
    if a.isDigit ∧ b.isDigit then
      (word ++ ' ' :: a :: b :: ':' :: rest.takeWhile isWordChar, rest.dropWhile isWordChar)
    else (word, ' ' :: a :: b :: ':' :: rest)
  | rest => (word, rest)

mutual

/-- A value, and the rest. -/
def value? (fuel room : Nat) (text : List Char) : Option (Item × List Char) :=
  match fuel with
  | 0 => none
  | fuel + 1 =>
    match text with
    | '[' :: rest =>
      match room with
      | 0 => none
      | room + 1 => do
        let (items, rest) ← items? fuel room (← skipFiller? false rest)
        pure (.array items, rest)
    | '\x7b' :: rest =>
      match room with
      | 0 => none
      | room + 1 => do
        let (pairs, rest) ←
          match skipBlanks rest with
          | '\x7d' :: rest => some ([], rest)
          | rest => pairs? fuel room rest
        let table ← Table.ofPairs? pairs
        pure (.table .inPlace table, rest)
    | c :: rest =>
      -- what is not quoted is one word, whose kind is told from the whole of it
      if c = '"' ∨ c = '\'' then
        (quoted? (c :: rest)).map fun r => (.text (String.ofList r.1), r.2)
      else
        let (word, rest) := takeWord (c :: rest)
        (word? word).map fun item => (item, rest)
    | [] => none

/-- Values up to the closing bracket of their array, and the rest. A comma may follow the last. -/
def items? (fuel room : Nat) (text : List Char) : Option (List Item × List Char) :=
  match fuel with
  | 0 => none
  | fuel + 1 =>
    match text with
    | ']' :: rest => some ([], rest)
    | text => do
      let (item, rest) ← value? fuel room text
      match ← skipFiller? false rest with
      | ']' :: rest => pure ([item], rest)
      | ',' :: rest => do
        let (items, rest) ← items? fuel room (← skipFiller? false rest)
        pure (item :: items, rest)
      | _ => none

/-- Keys and values up to the closing brace of their table, and the rest. -/
def pairs? (fuel room : Nat) (text : List Char) : Option (List (Key × Item) × List Char) :=
  match fuel with
  | 0 => none
  | fuel + 1 => do
    let (key, rest) ← key? Toml.room text
    match rest with
    | '=' :: rest => do
      let (item, rest) ← value? fuel room (skipBlanks rest)
      match skipBlanks rest with
      | '\x7d' :: rest => pure ([(key, item)], rest)
      | ',' :: rest => do
        let (pairs, rest) ← pairs? fuel room rest
        pure ((key, item) :: pairs, rest)
      | _ => none
    | _ => none

end

/-! ## Files -/

/-- One statement, and the rest. -/
def statement? (text : List Char) : Option (Statement × List Char) :=
  match text with
  | '[' :: '[' :: rest => do
    let (key, rest) ← key? room rest
    match rest with
    | ']' :: ']' :: rest => pure (.nextHeader key, rest)
    | _ => none
  | '[' :: rest => do
    let (key, rest) ← key? room rest
    match rest with
    | ']' :: rest => pure (.header key, rest)
    | _ => none
  | text => do
    let (key, rest) ← key? room text
    match rest with
    | '=' :: rest => do
      -- an item costs a step for its place and one for its value
      let (item, rest) ← value? (2 * text.length) room (skipBlanks rest)
      pure (.pair key item, rest)
    | _ => none

/-- All statements. -/
def statements? (fuel : Nat) (text : List Char) : Option (List Statement) :=
  match fuel with
  | 0 => none
  | fuel + 1 => do
    match ← skipFiller? false text with
    | [] => pure []
    | text => do
      let (statement, rest) ← statement? text
      let statements ← statements? fuel (← statementEnd? rest)
      pure (statement :: statements)

/-- The text without the mark of its byte order, if there is one. -/
def skipMark : List Char → List Char
  | '\ufeff' :: rest => rest
  | text => text

/-- **The table that a whole text is.** -/
def parse? (text : String) : Option Table := do
  let text := skipMark text.toList
  (← Table.ofStatements? (← statements? (text.length + 1) text)).settled?

end LeveredBasket.Toml
