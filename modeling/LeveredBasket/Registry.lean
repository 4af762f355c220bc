/-
The registry: which modules and baskets are enabled, what fees modules charge,
who receives them, and under what names modules find contracts and adapters.
-/
import LeveredBasket.Exchange.Order

set_option autoImplicit false

namespace LeveredBasket

/-- **The registry** (`SimController`). -/
structure Registry where
  feeRecipient : Address
  modules : FiniteMap Address Unit
  baskets : FiniteMap Address Unit
  /-- Fees of a module, numbered. -/
  fees : FiniteMap (Address × Word 64) BasisPoints
  /-- Contracts of a module, named. -/
  integrations : FiniteMap (Address × String) Address
  /-- Adapters of a module, named. -/
  adapters : FiniteMap (Address × String) Exchange.Adapter
deriving DecidableEq

namespace Registry

/-- A registry with nothing in it. -/
def create (feeRecipient : Address) : Registry :=
  ⟨feeRecipient, .empty, .empty, .empty, .empty, .empty⟩

def addModule (r : Registry) (address : Address) : Registry :=
  { r with modules := r.modules.insert address () }

def removeModule (r : Registry) (address : Address) : Registry :=
  { r with modules := r.modules.erase address }

def addBasket (r : Registry) (basket : Address) : Registry :=
  { r with baskets := r.baskets.insert basket () }

def setFee (r : Registry) (address : Address) (index : Word 64) (fee : BasisPoints) : Registry :=
  { r with fees := r.fees.insert (address, index) fee }

def setIntegration (r : Registry) (address : Address) (name : String) (target : Address) :
    Registry :=
  { r with integrations := r.integrations.insert (address, name) target }

def setAdapter (r : Registry) (address : Address) (name : String) (adapter : Exchange.Adapter) :
    Registry :=
  { r with adapters := r.adapters.insert (address, name) adapter }

def moduleEnabled (r : Registry) (address : Address) : Bool := r.modules.contains address

def basketEnabled (r : Registry) (basket : Address) : Bool := r.baskets.contains basket

/-- A fee of a module; none is charged where none is set. -/
def fee (r : Registry) (address : Address) (index : Word 64) : BasisPoints :=
  r.fees.getD (address, index) .zero

def integration? (r : Registry) (address : Address) (name : String) : Option Address :=
  r.integrations.get? (address, name)

def adapter? (r : Registry) (address : Address) (name : String) : Option Exchange.Adapter :=
  r.adapters.get? (address, name)

/-- The adapter of this name, which there has to be (`exchange::resolve_adapter`). -/
def adapter (r : Registry) (address : Address) (name : String) :
    Except Exchange.ExchangeError Exchange.Adapter :=
  match r.adapter? address name with
  | some adapter => .ok adapter
  | none => .error (.unknownAdapter name)

end Registry

end LeveredBasket
