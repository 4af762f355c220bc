/-
JSON values and their compact text.

Numbers and strings are kept as they are written: what a number or a string
means depends on who reads it, and one that nobody reads need not mean
anything. The compact text has no blanks at all.
-/
set_option autoImplicit false

namespace LeveredBasket

/-- **A JSON value**, its scalars as written. -/
inductive Json where
  | null
  | bool (b : Bool)
  /-- A number, as written. -/
  | number (written : List Char)
  /-- A string, as written between its quotation marks. -/
  | string (written : List Char)
  | array (items : List Json)
  /-- An object: names, as written between their quotation marks, and values. -/
  | object (members : List (List Char × Json))

namespace Json

instance : Inhabited Json := ⟨null⟩

/-- A quotation mark on either side. -/
def quote (written : List Char) : List Char := '"' :: written ++ ['"']

mutual

/-- The compact text of a value. -/
def print : Json → List Char
  | null => "null".toList
  | bool true => "true".toList
  | bool false => "false".toList
  | number written => written
  | string written => quote written
  | array items => '[' :: printItems items ++ [']']
  | object members => '\x7b' :: printMembers members ++ ['\x7d']

/-- Values with commas between them. -/
def printItems : List Json → List Char
  | [] => []
  | [v] => print v
  | v :: rest => print v ++ ',' :: printItems rest

/-- Names and values with commas between them. -/
def printMembers : List (List Char × Json) → List Char
  | [] => []
  | [(name, v)] => quote name ++ ':' :: print v
  | (name, v) :: rest => quote name ++ ':' :: print v ++ ',' :: printMembers rest

end

/-- The compact text of a value, as a string. -/
def text (v : Json) : String := String.ofList (print v)

end Json

end LeveredBasket
