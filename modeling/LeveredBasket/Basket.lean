/-
Basket tokens: supply, manager, modules and positions.

A basket keeps a list of positions. A component may have one default position,
held by the basket itself, and one external position for each module that
accounts for it elsewhere; an external unit may be negative. The positions of a
component stand together, the default one first, and components stand in the
order in which they were first seen. A position of unit zero is no position:
writing zero takes it off the list.
-/
import LeveredBasket.FiniteMap
import LeveredBasket.Json.Form

set_option autoImplicit false

namespace LeveredBasket

/-! ## Positions -/

/-- Who holds a position. -/
inductive PositionKind where
  /-- The basket itself. -/
  | default
  /-- A module, on the basket's account. -/
  | external
deriving DecidableEq

/-- **A position** (`position::Position`): the unit of one component in one place. -/
structure Position where
  component : Address
  kind : PositionKind
  /-- The module that accounts for an external position. -/
  holder : Option Address
  unit : PositionUnit
deriving DecidableEq

namespace Position

def ofDefault (component : Address) (unit : PositionUnit) : Position :=
  ⟨component, .default, none, unit⟩

def ofExternal (component holder : Address) (unit : PositionUnit) : Position :=
  ⟨component, .external, some holder, unit⟩

/-- Whether this is an external position of the given module. -/
def isExternalOf (p : Position) (holder : Address) : Bool :=
  p.kind = .external && p.holder = some holder

/-- Whether two positions are of the same component in the same place. -/
def samePlace (p q : Position) : Bool :=
  p.component = q.component && p.kind = q.kind && p.holder = q.holder

end Position

/-! ## Lists of positions -/

namespace Positions

/-- The unit written for a place, or zero (`BasketToken::find`). -/
def unit (place : Position) (ps : List Position) : PositionUnit :=
  ((ps.find? (·.samePlace place)).map (·.unit)).getD .zero

/-- The index of the last position of a component. -/
def lastIndex? (component : Address) : List Position → Option Nat
  | [] => none
  | q :: rest =>
    match lastIndex? component rest with
    | some last => some (last + 1)
    | none => if q.component = component then some 0 else none

/-- Where a position goes that has no place yet: a default position in front of the component's
others, an external one behind them, and the first of a component at the end. -/
def insertIndex (p : Position) (ps : List Position) : Nat :=
  match lastIndex? p.component ps with
  | none => ps.length
  | some last =>
    match p.kind with
    -- a component's positions stand together, so the first of them is its count away from the last
    | .default => last + 1 - ps.countP (·.component = p.component)
    | .external => last + 1

def insertNew (p : Position) (ps : List Position) : List Position :=
  ps.insertIdx (insertIndex p ps) p

/-- Writes a position: in its place if it has one, and off the list if its unit is zero
(`BasketToken::upsert`). -/
def write (p : Position) (ps : List Position) : List Position :=
  if ps.any (·.samePlace p) then
    if p.unit.isZero then ps.eraseP (·.samePlace p)
    else ps.map fun q => if q.samePlace p then { q with unit := p.unit } else q
  else if p.unit.isZero then ps
  else insertNew p ps

end Positions

/-! ## Modules on a basket -/

/-- How far a module has come on a basket (`position::ModuleStatus`). -/
inductive ModuleStatus where
  | none
  | pending
  | initialized
deriving DecidableEq

def ModuleStatus.name : ModuleStatus → String
  | none => "None"
  | pending => "Pending"
  | initialized => "Initialized"

/-- **A basket token** (`BasketToken`). -/
structure Basket where
  address : Address
  manager : Address
  supply : Amount
  positions : List Position
  /-- The modules that are pending or initialized. -/
  modules : FiniteMap Address ModuleStatus
deriving DecidableEq

namespace Basket

/-- A basket with no positions and no modules. -/
def create (address manager : Address) (supply : Amount) : Basket :=
  ⟨address, manager, supply, [], .empty⟩

/-- The unit of the basket's own holding of a component. -/
def defaultUnit (b : Basket) (component : Address) : PositionUnit :=
  Positions.unit (.ofDefault component .zero) b.positions

/-- The unit that a module accounts for in a component. -/
def externalUnit (b : Basket) (component holder : Address) : PositionUnit :=
  Positions.unit (.ofExternal component holder .zero) b.positions

def setDefault (b : Basket) (component : Address) (unit : PositionUnit) : Basket :=
  { b with positions := Positions.write (.ofDefault component unit) b.positions }

def setExternal (b : Basket) (component holder : Address) (unit : PositionUnit) : Basket :=
  { b with positions := Positions.write (.ofExternal component holder unit) b.positions }

def status (b : Basket) (address : Address) : ModuleStatus := b.modules.getD address .none

def setStatus (b : Basket) (address : Address) (status : ModuleStatus) : Basket :=
  { b with
    modules :=
      if status = .none then b.modules.erase address else b.modules.insert address status }

end Basket

/-! ## JSON forms -/

def PositionKind.name : PositionKind → String
  | .default => "Default"
  | .external => "External"

instance : JsonForm PositionKind where
  encode k := Json.ofText k.name
  decode? v :=
    match Json.unitVariant? v with
    | some "Default" => some .default
    | some "External" => some .external
    | _ => none

instance : JsonForm Position where
  encode p := Json.record [
    ("component", JsonForm.encode p.component),
    ("kind", JsonForm.encode p.kind),
    ("module", JsonForm.encode p.holder),
    ("unit", JsonForm.encode p.unit)]
  decode? v := do
    let [component, kind, holder, unit] ← Json.fields? ["component", "kind", "module", "unit"] v
      | none
    pure ⟨← Json.required component, ← Json.required kind, ← Json.optional holder,
      ← Json.required unit⟩

instance : JsonForm ModuleStatus where
  encode s := Json.ofText s.name
  decode? v :=
    match Json.unitVariant? v with
    | some "None" => some .none
    | some "Pending" => some .pending
    | some "Initialized" => some .initialized
    | _ => none

end LeveredBasket
