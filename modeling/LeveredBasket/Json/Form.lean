/-
The JSON forms of values.

A type with a JSON form has one way to be written and possibly several to be
read. Numbers are written in decimal and read only if they are whole, within
the range of their type, and written without fraction or exponent. A record is
an object with its fields in order; it is also read from an object with the
fields in any order and others among them, and from an array of its fields in
order. A variant without content is its name, and is also read from an object
that maps the name to null; a variant with content is an object with the name
as its only member.
-/
import LeveredBasket.Json.Parser
import LeveredBasket.Scalars
import LeveredBasket.Share

set_option autoImplicit false

namespace LeveredBasket

/-- **A type with a JSON form.** -/
class JsonForm (α : Type) where
  encode : α → Json
  decode? : Json → Option α

namespace JsonForm

variable {α : Type} [JsonForm α]

/-- The JSON text of a value. -/
def text (a : α) : String := (encode a).text

/-- The value whose JSON text this is. -/
def ofText? (text : String) : Option α := Json.parse? text.toList >>= decode?

end JsonForm

open JsonForm (encode decode?)

namespace Json

/-! ## Numbers -/

/-- The number of a row of digits, and of nothing else. -/
def natural? (written : List Char) : Option Nat :=
  if written.all Char.isDigit then some (Nat.ofDigitChars 10 written 0) else none

/-- The number of a row of digits with or without a minus sign. -/
def integer? : List Char → Option Int
  | '-' :: digits => (natural? digits).map fun n => -(n : Int)
  | digits => (natural? digits).map Int.ofNat

/-- An integer in decimal. -/
def integerDigits (i : Int) : List Char :=
  if i < 0 then '-' :: Nat.toDigits 10 i.natAbs else Nat.toDigits 10 i.natAbs

instance {bits : Nat} : JsonForm (Word bits) where
  encode w := .number (Nat.toDigits 10 w.toNat)
  decode?
    | .number written => natural? written >>= Word.ofNat? bits
    | _ => none

/-- Signed numbers of up to 64 digits do not take a minus sign before zero. -/
instance : JsonForm (IntWord 64) where
  encode i := .number (integerDigits i.toInt)
  decode?
    | .number ['-', '0'] => none
    | .number written => integer? written >>= IntWord.ofInt? 64
    | _ => none

instance : JsonForm (IntWord 128) where
  encode i := .number (integerDigits i.toInt)
  decode?
    | .number written => integer? written >>= IntWord.ofInt? 128
    | _ => none

instance : JsonForm UInt8 where
  encode b := .number (Nat.toDigits 10 b.toNat)
  decode?
    | .number written => do
      let n ← natural? written
      if n < 256 then some (UInt8.ofNat n) else none
    | _ => none

/-! ## Text, truth values, options and lists -/

/-- A string value. -/
def ofText (text : String) : Json := .string (Quoted.escape text.toList)

/-- The text of a string as written. -/
def textOf? (written : List Char) : Option String := (Quoted.unescape? written).map String.ofList

instance : JsonForm String where
  encode := ofText
  decode?
    | .string written => textOf? written
    | _ => none

instance : JsonForm Bool where
  encode := .bool
  decode?
    | .bool b => some b
    | _ => none

instance {α : Type} [JsonForm α] : JsonForm (Option α) where
  encode
    | some a => encode a
    | none => .null
  decode?
    | .null => some none
    | v => (decode? v).map some

instance {α : Type} [JsonForm α] : JsonForm (List α) where
  encode as := .array (as.map encode)
  decode?
    | .array items => items.mapM decode?
    | _ => none

/-! ## Records -/

/-- A record: an object with these members. -/
def record (members : List (String × Json)) : Json :=
  .object (members.map fun m => (Quoted.escape m.1.toList, m.2))

/-- The value of the member of this name, if there is one; there may not be two. -/
def member? (name : String) (members : List (String × Json)) : Option (Option Json) :=
  match members.filter (·.1 = name) with
  | [] => some none
  | [m] => some (some m.2)
  | _ => none

/-- The members of an object under these names. -/
def members? (names : List String) (members : List (List Char × Json)) :
    Option (List (Option Json)) := do
  -- every name has to mean a text, also that of a member which nobody asks for
  let members ← members.mapM fun m => (textOf? m.1).map fun name => (name, m.2)
  names.mapM fun name => member? name members

/-- The fields of a record of these names, each if it is there. -/
def fields? (names : List String) : Json → Option (List (Option Json))
  | .object members => members? names members
  | .array items => if items.length = names.length then some (items.map some) else none
  | _ => none

/-- The fields of a record that need not all be there, in an array those at the end. -/
def someFields? (names : List String) : Json → Option (List (Option Json))
  | .object members => members? names members
  | .array items =>
    if items.length ≤ names.length then
      some (items.map some ++ List.replicate (names.length - items.length) none)
    else none
  | _ => none

/-- A field that has to be there. -/
def required {α : Type} [JsonForm α] (field : Option Json) : Option α := field >>= decode?

/-- A field that counts as null where it is missing. -/
def optional {α : Type} [JsonForm α] (field : Option Json) : Option (Option α) :=
  decode? (field.getD .null)

/-- A field that has a default value. -/
def withDefault {α : Type} [JsonForm α] (default : α) : Option Json → Option α
  | some v => decode? v
  | none => some default

/-! ## Variants -/

/-- The name of a variant without content. -/
def unitVariant? : Json → Option String
  | .string written => textOf? written
  | .object [(written, .null)] => textOf? written
  | _ => none

/-- A variant with content. -/
def variant (name : String) (content : Json) : Json := record [(name, content)]

/-- The name and the content of a variant with content. -/
def variant? : Json → Option (String × Json)
  | .object [(written, content)] => (textOf? written).map fun name => (name, content)
  | _ => none

end Json

/-! ## Forms of the basic types -/

instance : JsonForm Address where
  encode a := encode a.value
  decode? v := (decode? v).map Address.mk

instance : JsonForm PositionUnit where
  encode u := encode u.value
  decode? v := (decode? v).map PositionUnit.mk

instance : JsonForm BasisPoints where
  encode r := encode r.value
  decode? v := (decode? v).map BasisPoints.mk

instance : JsonForm Instant where
  encode t := encode t.millis
  decode? v := (decode? v).map Instant.mk

instance : JsonForm Rounding where
  encode
    | .down => Json.ofText "Down"
    | .up => Json.ofText "Up"
  decode? v :=
    match Json.unitVariant? v with
    | some "Down" => some .down
    | some "Up" => some .up
    | _ => none

end LeveredBasket
