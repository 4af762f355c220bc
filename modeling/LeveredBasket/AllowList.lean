/-
The allow list: which baskets may be enrolled.

A basket is listed or not, and an override permits every basket. Each change
moves the version by one, whether or not it changes an answer.
-/
import LeveredBasket.FiniteMap
import LeveredBasket.Json.Form

set_option autoImplicit false

namespace LeveredBasket

/-- **The allow list** (`allow_list::AllowList`). -/
structure AllowList where
  /-- The baskets that were ever listed or delisted, with what was said last. -/
  allowed : FiniteMap Address Bool
  anyAllowed : Bool
  /-- How many changes there were. -/
  version : Word 64
deriving DecidableEq

namespace AllowList

/-- The list at first: no basket, and no override. -/
def empty : AllowList := ⟨.empty, false, 0⟩

/-- Lists or delists a basket, as long as changes can be counted (`AllowList::set_allowed`). -/
def setAllowed? (l : AllowList) (basket : Address) (allowed : Bool) : Option AllowList :=
  l.version.succ?.map fun version =>
    { l with allowed := l.allowed.insert basket allowed, version := version }

/-- Sets the override, as long as changes can be counted (`AllowList::set_any_basket_allowed`). -/
def setAnyAllowed? (l : AllowList) (anyAllowed : Bool) : Option AllowList :=
  l.version.succ?.map fun version => { l with anyAllowed := anyAllowed, version := version }

def isListed (l : AllowList) (basket : Address) : Bool := l.allowed.getD basket false

/-- Whether the basket is listed or the override is on (`AllowList::permits`). -/
def permits (l : AllowList) (basket : Address) : Bool := l.anyAllowed || l.isListed basket

/-! ## JSON form

Baskets are member names, in decimal and in the order of their texts. A name is
read as a number only if it is written without escapes; of two members of one
name the later counts. -/

open JsonForm (encode decode?)

/-- The members in the order of their names. -/
def members (l : AllowList) : List (String × Json) :=
  -- as texts, so that ten comes before nine
  let byName : FiniteMap String Json := l.allowed.entries.foldl
    (fun m e => m.insert (String.ofList (Nat.toDigits 10 e.1.value.toNat)) (encode e.2)) .empty
  byName.entries

/-- The basket that a member name is. -/
def basketOf? (written : List Char) : Option Address :=
  match Json.takeWhole? written with
  | some (digits, []) => ((Json.natural? digits) >>= Word.ofNat? 64).map Address.mk
  | _ => none

/-- The table that the members of an object are. -/
def table? (members : List (List Char × Json)) : Option (FiniteMap Address Bool) :=
  members.foldlM
    (fun m member => do pure (m.insert (← basketOf? member.1) (← decode? member.2))) .empty

instance : JsonForm AllowList where
  encode l := Json.record [
    ("allowed", Json.record l.members),
    ("any_basket_allowed", encode l.anyAllowed),
    ("version", encode l.version)]
  decode? v := do
    let [allowed, anyAllowed, version] ← Json.fields?
      ["allowed", "any_basket_allowed", "version"] v
      | none
    let some (.object members) := allowed | none
    pure ⟨← table? members, ← Json.required anyAllowed, ← Json.required version⟩

end AllowList

end LeveredBasket
