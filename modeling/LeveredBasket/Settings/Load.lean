/-
Where settings come from.

The usual settings are overridden by those of a file, and these by variables of
the environment. A variable is a setting if its name is the desk's mark followed
by the name of the setting. The case of a name never matters, neither in a file
nor in the environment. What comes out has to make sense as a whole.

The settings of a file are what stands outside of all tables. A table is no value of
any setting, nor is an array; a date or a time of day is the same as its text.
-/
import LeveredBasket.Settings
import LeveredBasket.Settings.Raw
import LeveredBasket.Toml.Parser

set_option autoImplicit false

namespace LeveredBasket.Settings

/-! ## Files -/

/-- What an item says as a setting. -/
def Raw.ofItem : Toml.Item → Raw
  | .truth b => .truth b
  | .whole i => .whole i
  | .real r => .real r
  | .text t => .text t
  | .moment m => .text m.text
  | .table _ [] => .nothing
  | .array _ | .table _ _ | .tables _ => .compound

/-- **The settings of a file**, in the order of their names. -/
def ofFile? (text : String) : Option (List (String × Raw)) := do
  let table ← Toml.parse? text
  -- in the order of names, because of two that differ in case only the later counts
  let named := table.foldl (fun (m : FiniteMap String Toml.Item) e => m.insert e.1 e.2) .empty
  pure (named.entries.map fun e => (e.1, .ofItem e.2))

/-! ## Names -/

/-- The characters of a name in a path. -/
def isNameChar (c : Char) : Bool := Toml.isBare c || c = ' '

/-- Whether a text between brackets counts places: an integer, with or without blanks around it,
that fits in 64 binary digits. There is no plus sign in front of it. -/
def isPlace (text : List Char) : Bool :=
  let inner := ((text.dropWhile Toml.isBlank).reverse.dropWhile Toml.isBlank).reverse
  inner.head? ≠ some '+' && (signed? inner >>= IntWord.ofInt? 64).isSome

/-- Where a path of names with points and places in brackets goes on: whether it is one. -/
def isPathTail (fuel : Nat) (text : List Char) : Bool :=
  match fuel, text with
  | _, [] => true
  | 0, _ => false
  | fuel + 1, '.' :: rest =>
    (rest.takeWhile isNameChar ≠ []) && isPathTail fuel (rest.dropWhile isNameChar)
  | fuel + 1, '[' :: rest =>
    match rest.span (· ≠ ']') with
    | (place, _ :: rest) => isPlace place && isPathTail fuel rest
    | _ => false
  | _, _ => false

/-- What a named value sets, whatever the case of its name: a name with a path behind it makes its
first part a compound value. -/
def placed (name : String) (v : Raw) : String × Raw :=
  let name := lower name
  let first := name.toList.takeWhile isNameChar
  let rest := name.toList.dropWhile isNameChar
  if first ≠ [] ∧ rest ≠ [] ∧ isPathTail rest.length rest then (String.ofList first, .compound)
  else (name, v)

/-! ## Variables -/

/-- What the names of variables start with, in lower case. -/
def variableMark : List Char := "leverage__".toList

/-- Each pair of underscores as a point. -/
def pointed : List Char → List Char
  | '_' :: '_' :: rest => '.' :: pointed rest
  | c :: rest => c :: pointed rest
  | [] => []

/-- A number as the environment may write it: with a fraction or an exponent, or a word for one
that is not finite. -/
def realWord? (text : List Char) : Option Binary64 := do
  let (negative, text) := Toml.sign text
  let word := lower (String.ofList text)
  if word = "inf" ∨ word = "infinity" then some (.infinite negative)
  else if word = "nan" then some .nan
  else
    let mantissa := text.takeWhile (!Toml.isExponentMark ·)
    let whole := mantissa.takeWhile (· ≠ '.')
    let fraction := (mantissa.dropWhile (· ≠ '.')).drop 1
    let units ← digits? (whole ++ fraction)
    let exponent ← match text.dropWhile (!Toml.isExponentMark ·) with
      | [] => some 0
      | _ :: rest => signed? rest
    some (.ofDecimal negative units (exponent - fraction.length))

/-- What a variable says: a truth value, else an integer, else another number, else text. -/
def variableValue (text : String) : Raw :=
  let word := lower text
  if word = "true" then .truth true
  else if word = "false" then .truth false
  else
    -- an integer that does not fit is read as a number with a fraction would be
    match signed? text.toList >>= IntWord.ofInt? 64 with
    | some i => .whole i.toInt
    | none =>
      match realWord? text.toList with
      | some r => .real r
      | none => .text text

/-- What a variable sets, if anything. -/
def ofVariable? (name value : String) : Option (String × Raw) :=
  let name := (lower name).toList
  if variableMark.isPrefixOf name then
    some (placed (String.ofList (pointed (name.drop variableMark.length))) (variableValue value))
  else none

/-! ## Layers -/

/-- What is found under each name once one more value is: the later value, but a table with
nothing in it changes no value that is there. -/
def overlay (found : FiniteMap String Raw) (setting : String × Raw) : FiniteMap String Raw :=
  if setting.2 = .nothing ∧ found.contains setting.1 then found
  else found.insert setting.1 setting.2

/-- The value that was found under a name, or the usual one; refused if it cannot be one. -/
def pick {α : Type} (found : FiniteMap String Raw) (name : String) (usual : α)
    (convert : Raw → Option α) : Except SettingsError α :=
  match found.get? name with
  | none => .ok usual
  | some v =>
    match convert v with
    | some a => .ok a
    | none => .error .unreadable

/-- The settings that the values under their names make. -/
def ofFound (found : FiniteMap String Raw) : Except SettingsError Settings := do
  pure {
    maxEvents := ← pick found "max_events" usual.maxEvents (·.toWord? 64)
    feeIndex := ← pick found "protocol_fee_index" usual.feeIndex (·.toWord? 64)
    maxFee := ← pick found "max_protocol_fee_bps" usual.maxFee
      fun v => (v.toWord? 32).map BasisPoints.mk
    issuanceName := ← pick found "issuance_module_name" usual.issuanceName (·.toText?)
    syncOnHook := ← pick found "sync_on_component_hook" usual.syncOnHook (·.toBool?) }

/-- **The settings of a file, if there is one, and of the environment**
(`ModuleConfig::load_from`). -/
def load (file : Option String) (environment : List (String × String)) :
    Except SettingsError Settings := do
  let inFile ← match file with
    | none => pure []
    | some text =>
      match ofFile? text with
      | some found => pure (found.map fun f => placed f.1 f.2)
      | none => throw .unreadable
  -- variables come last, so that they override the file
  let inVariables := environment.filterMap fun v => ofVariable? v.1 v.2
  let settings ← ofFound ((inFile ++ inVariables).foldl overlay .empty)
  settings.validate

end LeveredBasket.Settings
