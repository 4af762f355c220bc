/-
The items of a TOML file, and how a file puts them together.

A file says each thing once: no name is given twice in a table, and no table is
opened twice. A table may come to be in four ways (`Origin`), and these decide
who may still add to it: headers may go on below any table that is not written
out in place, but a key with points in it may only pass through tables that no
header has opened, and may only end in one that such keys have made.

A moment may also be written as a table: its first name is then `momentMark`,
and the text under it is the moment. `Item.settled?` puts the moment in the
place of such a table, wherever it is.
-/
import LeveredBasket.Toml.Moment
import LeveredBasket.Binary64

set_option autoImplicit false

namespace LeveredBasket.Toml

/-- How a table came to be. -/
inductive Origin where
  /-- It is written out in place. -/
  | inPlace
  /-- A header has opened it. -/
  | opened
  /-- The header of a table below it has passed through it. -/
  | passed
  /-- A key with points in it has made it. -/
  | pointed
deriving DecidableEq

/-- **An item**: what a name in a file stands for. -/
inductive Item where
  | truth (value : Bool)
  | whole (value : Int)
  | real (value : Binary64)
  | text (value : String)
  | moment (value : Moment)
  | array (items : List Item)
  | table (origin : Origin) (entries : List (String × Item))
  /-- Tables under one name, each of which a header has opened. -/
  | tables (all : List (List (String × Item)))

/-- Names and what they stand for, each name once. -/
abbrev Table := List (String × Item)

/-- **A key**: a name, and the tables that lead to it. -/
structure Key where
  path : List String
  name : String
deriving DecidableEq

/-- All the names of a key. -/
def Key.names (k : Key) : List String := k.path ++ [k.name]

namespace Table

/-- What a name stands for. -/
def get? (t : Table) (name : String) : Option Item := t.lookup name

/-- The table with another item under a name that it has. -/
def replace (t : Table) (name : String) (item : Item) : Table :=
  t.map fun e => if e.1 = name then (name, item) else e

/-- The table without a name. -/
def erase (t : Table) (name : String) : Table := t.filter fun e => e.1 ≠ name

/-- Changes the table at the end of a path of headers. Where there is nothing, tables are made. -/
def within? (change : Table → Option Table) : (path : List String) → Table → Option Table
  | [], t => change t
  | name :: path, t =>
    match t.get? name with
    | none => (within? change path []).map fun inner => t ++ [(name, .table .passed inner)]
    | some (.table origin inner) =>
      if origin = .inPlace then none
      else (within? change path inner).map fun inner => t.replace name (.table origin inner)
    | some (.tables all) =>
      -- of several tables under a name, headers go on below the last
      match all.getLast? with
      | some last =>
        (within? change path last).map fun last => t.replace name (.tables (all.dropLast ++ [last]))
      | none => none
    | some _ => none

/-- Adds an item under a key that is not there yet. -/
def add? (item : Item) (name : String) : (path : List String) → Table → Option Table
  | [], t => if (t.get? name).isSome then none else some (t ++ [(name, item)])
  | first :: path, t =>
    match t.get? first with
    | none => (add? item name path []).map fun inner => t ++ [(first, .table .pointed inner)]
    | some (.table origin inner) =>
      if origin = .pointed ∨ (origin = .passed ∧ path ≠ []) then
        (add? item name path inner).map fun inner => t.replace first (.table origin inner)
      else none
    | some (.tables all) =>
      match all.getLast? with
      | some last =>
        if path = [] then none
        else
          (add? item name path last).map fun last =>
            t.replace first (.tables (all.dropLast ++ [last]))
      | none => none
    | some _ => none

/-- Opens a table that at most headers of tables below it have spoken of. Its place is after all
that has been said so far. -/
def open? (name : String) (t : Table) : Option Table :=
  match t.get? name with
  | none => some (t ++ [(name, .table .opened [])])
  -- what was made in passing moves behind all that stands there by now
  | some (.table .passed inner) => some (t.erase name ++ [(name, .table .opened inner)])
  | some _ => none

/-- Opens one more of the tables under a name. -/
def openNext? (name : String) (t : Table) : Option Table :=
  match t.get? name with
  | none => some (t ++ [(name, .tables [[]])])
  | some (.tables all) => some (t.replace name (.tables (all ++ [[]])))
  | some _ => none

end Table

/-! ## Statements -/

/-- **A statement of a file.** -/
inductive Statement where
  /-- An item under a key, in the table that is open. -/
  | pair (key : Key) (item : Item)
  /-- The header of a table. -/
  | header (key : Key)
  /-- The header of one of several tables under a name. -/
  | nextHeader (key : Key)

/-- What has been said so far: the names that lead to the open table, and all tables. -/
structure Reading where
  current : List String
  root : Table

namespace Reading

def start : Reading := ⟨[], []⟩

/-- What has been said with one more statement. -/
def step? (r : Reading) : Statement → Option Reading
  | .pair key item =>
    (r.root.within? (Table.add? item key.name key.path) r.current).map (⟨r.current, ·⟩)
  | .header key => (r.root.within? (Table.open? key.name) key.path).map (⟨key.names, ·⟩)
  | .nextHeader key => (r.root.within? (Table.openNext? key.name) key.path).map (⟨key.names, ·⟩)

end Reading

namespace Table

/-- The table that statements make, if they agree with each other. -/
def ofStatements? (statements : List Statement) : Option Table :=
  (statements.foldlM Reading.step? Reading.start).map Reading.root

/-- A table written out in place. -/
def ofPairs? (pairs : List (Key × Item)) : Option Table :=
  pairs.foldlM (fun t pair => t.add? pair.2 pair.1.name pair.1.path) []

end Table

/-! ## Moments written as tables -/

/-- The first name of a table that stands for a moment. -/
def momentMark : String := "$__toml_private_datetime"

/-- Whether a table stands for a moment. -/
def Table.isMoment (t : Table) : Bool := t.head?.any (·.1 = momentMark)

/-- What the entries of a table make: the moment that its first text is, if it stands for one, and
the table with the given entries if not. -/
def Item.ofEntries? (origin : Origin) (entries : Table) (settled : Option Table) : Option Item :=
  if entries.isMoment then
    match entries with
    | (_, .text t) :: _ => (moment? t.toList).map .moment
    | _ => none
  else settled.map (.table origin)

mutual

/-- The item with moments in the place of the tables that stand for them, if all of these are
well written. -/
def Item.settled? : Item → Option Item
  | .array items => (settledItems? items).map .array
  | .table origin entries => Item.ofEntries? origin entries (settledEntries? entries)
  | .tables all => (settledTables? all).map .array
  | .truth b => some (.truth b)
  | .whole i => some (.whole i)
  | .real r => some (.real r)
  | .text t => some (.text t)
  | .moment m => some (.moment m)

def settledItems? : List Item → Option (List Item)
  | [] => some []
  | item :: rest => do pure ((← item.settled?) :: (← settledItems? rest))

def settledEntries? : List (String × Item) → Option (List (String × Item))
  | [] => some []
  | (name, item) :: rest => do pure ((name, ← item.settled?) :: (← settledEntries? rest))

def settledTables? : List (List (String × Item)) → Option (List Item)
  | [] => some []
  | entries :: rest => do
    pure ((← Item.ofEntries? .opened entries (settledEntries? entries)) :: (← settledTables? rest))

end

/-- The table of a whole file with its moments settled. It may not itself stand for one. -/
def Table.settled? (t : Table) : Option Table :=
  if t.isMoment then none else settledEntries? t

end LeveredBasket.Toml
